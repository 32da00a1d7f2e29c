import NuxAuth.Gateway.Roles
import NuxAuth.Gateway.Service

/-!
# Rebuilding the whitelist from a table with corrupt rows

A row can be corrupt in several places.  `roles_for_config` skips a `uuid` or
an `allow.peer` that is no peer; `From<ConfigNodeGuardRow>` expects all three
columns of JSON to parse and panics otherwise.  The entries a tolerant reading
would keep are written down here apart from both functions, and
`rebuild_whitelist` yields exactly those if no column is corrupt.
-/

namespace NuxAuth.Gateway

open NuxAuth.Core
open NuxAuth.Lib.LastWrite

section Entries

variable {PeerId : Type} [PeerIdText PeerId]

/-! ## What is well formed in a row -/

/-- The three columns of JSON text all parse. -/
def ColumnsParse (serde : SerdeJson) (row : ConfigNodeGuardRow) : Prop :=
  (serde.rateLimitFromStr row.rateLimitJson).isSome ∧
    (serde.allowFromStr row.allowJson).isSome ∧
    (serde.checkSumFromStr row.checkSumJson).isSome

/-- What the Guard of the row is granted, if its `uuid` is a peer. -/
def wellFormedOwner (row : ConfigNodeGuardRow) :
    List (PeerId × List String) :=
  (PeerIdText.fromStr row.uuid).toList.map fun peer =>
    (peer, [roleGuard, roleClient])

/-- What the entries of `allow` that name a peer are granted, in order. -/
def wellFormedAllow (entries : List Allow) : List (PeerId × List String) :=
  entries.flatMap fun entry =>
    (PeerIdText.fromStr entry.peer).toList.map fun peer => (peer, [roleClient])

/-- The well formed entries of a row; a row with a corrupt column has none. -/
def wellFormedEntries (serde : SerdeJson) (row : ConfigNodeGuardRow) :
    List (PeerId × List String) :=
  match serde.rateLimitFromStr row.rateLimitJson,
      serde.allowFromStr row.allowJson,
      serde.checkSumFromStr row.checkSumJson with
  | some _, some entries, some _ =>
      wellFormedOwner row ++ wellFormedAllow entries
  | _, _, _ => []

/-- No place of the row is corrupt. -/
def WellFormed (PeerId : Type) [PeerIdText PeerId] (serde : SerdeJson)
    (row : ConfigNodeGuardRow) : Prop :=
  (serde.rateLimitFromStr row.rateLimitJson).isSome ∧
    (serde.checkSumFromStr row.checkSumJson).isSome ∧
    (PeerIdText.fromStr row.uuid : Option PeerId).isSome ∧
    ∃ entries, serde.allowFromStr row.allowJson = some entries ∧
      ∀ entry ∈ entries,
        (PeerIdText.fromStr entry.peer : Option PeerId).isSome

/-! ## What the code makes of a row -/

theorem ofRow_isSome_iff {serde : SerdeJson} {row : ConfigNodeGuardRow} :
    (ConfigNodeGuard.ofRow serde row).isSome ↔ ColumnsParse serde row := by
  rw [ConfigNodeGuard.ofRow, ColumnsParse]
  cases serde.rateLimitFromStr row.rateLimitJson with
  | none => simp
  | some limit =>
      cases serde.allowFromStr row.allowJson with
      | none => simp
      | some entries =>
          cases serde.checkSumFromStr row.checkSumJson with
          | none => simp
          | some checkSum => simp

theorem readable_iff {serde : SerdeJson} {rows : List ConfigNodeGuardRow} :
    Readable serde rows ↔ ∀ row ∈ rows, ColumnsParse serde row :=
  forall₂_congr fun _ _ => ofRow_isSome_iff

theorem filterMap_eq_wellFormedAllow (entries : List Allow) :
    (entries.filterMap fun entry =>
        (PeerIdText.fromStr entry.peer).map
          fun peer : PeerId => (peer, [roleClient])) =
      wellFormedAllow entries := by
  induction entries with
  | nil => rfl
  | cons entry rest induction =>
      rw [wellFormedAllow, List.flatMap_cons, ← wellFormedAllow, ← induction]
      cases parsed : (PeerIdText.fromStr entry.peer : Option PeerId) with
      | none => simp [parsed]
      | some peer => simp [parsed]

/-- What `roles_for_config` emits for a row that could be read. -/
theorem rolesForConfig_of_ofRow {serde : SerdeJson}
    {row : ConfigNodeGuardRow} {config : ConfigNodeGuard}
    (read : ConfigNodeGuard.ofRow serde row = some config) :
    (rolesForConfig config : List (PeerId × List String)) =
      wellFormedEntries serde row := by
  rw [ConfigNodeGuard.ofRow] at read
  rw [wellFormedEntries]
  cases limit : serde.rateLimitFromStr row.rateLimitJson with
  | none => simp [limit] at read
  | some limited =>
      cases allowed : serde.allowFromStr row.allowJson with
      | none => simp [limit, allowed] at read
      | some entries =>
          cases sums : serde.checkSumFromStr row.checkSumJson with
          | none => simp [limit, allowed, sums] at read
          | some checkSum =>
              simp only [limit, allowed, sums, Option.bind_eq_bind,
                Option.bind_some, Option.pure_def, Option.some.injEq] at read
              rw [← read, rolesForConfig, filterMap_eq_wellFormedAllow,
                wellFormedOwner]
              cases (PeerIdText.fromStr row.uuid : Option PeerId) with
              | none => rfl
              | some owner => rfl

theorem wellFormedEntries_of_ofRow_eq_none {serde : SerdeJson}
    {row : ConfigNodeGuardRow}
    (corrupt : ConfigNodeGuard.ofRow serde row = none) :
    (wellFormedEntries serde row : List (PeerId × List String)) = [] := by
  have unread : ¬ ColumnsParse serde row := by
    rw [← ofRow_isSome_iff, corrupt]
    exact Bool.false_ne_true
  rw [wellFormedEntries]
  rw [ColumnsParse] at unread
  split
  · next limit entries sums limited allowed summed =>
      rw [limited, allowed, summed] at unread
      exact absurd ⟨rfl, rfl, rfl⟩ unread
  · rfl

/-- The rows that could be read emit the well formed entries of all rows. -/
theorem flatMap_configsOf (serde : SerdeJson)
    (rows : List ConfigNodeGuardRow) :
    ((configsOf serde rows).flatMap rolesForConfig :
        List (PeerId × List String)) =
      rows.flatMap (wellFormedEntries serde) := by
  induction rows with
  | nil => rfl
  | cons row rest induction =>
      rw [List.flatMap_cons, ← induction, configsOf, configsOf]
      cases read : ConfigNodeGuard.ofRow serde row with
      | none =>
          rw [List.filterMap_cons_none read,
            wellFormedEntries_of_ofRow_eq_none read, List.nil_append]
      | some config =>
          rw [List.filterMap_cons_some read, List.flatMap_cons,
            rolesForConfig_of_ofRow read]

end Entries

/-! ## What a tolerant start-up would do -/

section Rebuild

variable {PeerId : Type} [PeerIdText PeerId] [DecidableEq PeerId]
  [PeerIdentity PeerId]

/-- What the rows leave a peer with: the last well formed entry decides. -/
def lastGrant (serde : SerdeJson) (rows : List ConfigNodeGuardRow)
    (peer : PeerId) : Option (List String) :=
  lastSome (entryFor peer) (rows.flatMap (wellFormedEntries serde))

/--
A row that is corrupt anywhere changes the roles of no peer that another row
grants any.
-/
def CorruptRowsHarmless (serde : SerdeJson) (rows : List ConfigNodeGuardRow)
    (list : Whitelist PeerId) : Prop :=
  ∀ front row back, rows = front ++ row :: back →
    ¬ WellFormed PeerId serde row →
      ∀ peer : PeerId, (∃ other ∈ front ++ back,
          ∃ entry ∈ wellFormedEntries serde other, entry.1 = peer) →
        ∃ others, rebuildWhitelist serde (front ++ back) = some others ∧
          list.roles peer = others.roles peer

/-- The whole table is folded, and what is malformed in it ignored. -/
def IgnoresMalformed (PeerId : Type) [PeerIdText PeerId]
    [DecidableEq PeerId] [PeerIdentity PeerId] (serde : SerdeJson)
    (rows : List ConfigNodeGuardRow) : Prop :=
  ∃ list : Whitelist PeerId, rebuildWhitelist serde rows = some list ∧
    list = allowAll Whitelist.new (rows.flatMap (wellFormedEntries serde)) ∧
    CorruptRowsHarmless serde rows list

omit [PeerIdentity PeerId] in
theorem rebuildWhitelist_eq_wellFormed {serde : SerdeJson}
    {rows : List ConfigNodeGuardRow} {list : Whitelist PeerId} :
    rebuildWhitelist serde rows = some list ↔
      (∀ row ∈ rows, ColumnsParse serde row) ∧
        list = allowAll Whitelist.new
          (rows.flatMap (wellFormedEntries serde)) := by
  rw [rebuildWhitelist_eq_some_iff, readable_iff, flatMap_configsOf]

/--
A corrupt row that names a peer which the rows before it grant, and none behind
it, grants it the same roles once more.
-/
def CorruptRowsRepeat (PeerId : Type) [PeerIdText PeerId]
    [DecidableEq PeerId] (serde : SerdeJson)
    (rows : List ConfigNodeGuardRow) : Prop :=
  ∀ front row back, rows = front ++ row :: back →
    ¬ WellFormed PeerId serde row →
      ∀ (peer : PeerId) (earlier own : List String),
        lastGrant serde front peer = some earlier →
          lastGrant serde [row] peer = some own →
            lastGrant serde back peer = none → own = earlier

omit [PeerIdentity PeerId] in
theorem lastGrant_append (serde : SerdeJson)
    (front back : List ConfigNodeGuardRow) (peer : PeerId) :
    lastGrant serde (front ++ back) peer =
      (lastGrant serde back peer).or (lastGrant serde front peer) := by
  rw [lastGrant, List.flatMap_append, lastSome_append]
  rfl

omit [PeerIdentity PeerId] in
theorem lastGrant_ne_none_iff {serde : SerdeJson}
    {rows : List ConfigNodeGuardRow} {peer : PeerId} :
    lastGrant serde rows peer ≠ none ↔
      ∃ row ∈ rows, ∃ entry ∈ wellFormedEntries serde row,
        entry.1 = peer := by
  rw [lastGrant, Ne, lastSome_eq_none_iff]
  constructor
  · intro named
    rcases not_forall₂.mp named with ⟨entry, member, decides⟩
    rcases List.mem_flatMap.mp member with ⟨row, inside, listed⟩
    refine ⟨row, inside, entry, listed, ?_⟩
    by_contra other
    exact decides (if_neg other)
  · rintro ⟨row, inside, entry, listed, same⟩ silent
    have none := silent entry (List.mem_flatMap.mpr ⟨row, inside, listed⟩)
    rw [entryFor, if_pos same] at none
    cases none

theorem roles_of_rebuilt {serde : SerdeJson}
    {rows : List ConfigNodeGuardRow} {list : Whitelist PeerId}
    (rebuilt : rebuildWhitelist serde rows = some list) (peer : PeerId) :
    list.roles peer = lastGrant serde rows peer := by
  rcases rebuildWhitelist_eq_wellFormed.mp rebuilt with ⟨-, rfl⟩
  rw [roles_allowAll, lastGrant]
  exact Option.or_none

omit [PeerIdentity PeerId] in
/-- The rest of a table that is read is read as well. -/
theorem exists_rebuilt_without {serde : SerdeJson}
    {front back : List ConfigNodeGuardRow} {row : ConfigNodeGuardRow}
    {list : Whitelist PeerId}
    (rebuilt : rebuildWhitelist serde (front ++ row :: back) = some list) :
    ∃ others : Whitelist PeerId,
      rebuildWhitelist serde (front ++ back) = some others := by
  have parse := (rebuildWhitelist_eq_wellFormed.mp rebuilt).1
  have othersParse : ∀ other ∈ front ++ back, ColumnsParse serde other := by
    intro other member
    refine parse other ?_
    rcases List.mem_append.mp member with before | after
    · exact List.mem_append_left _ before
    · exact List.mem_append_right _ (List.mem_cons_of_mem _ after)
  exact ⟨_, rebuildWhitelist_eq_wellFormed.mpr ⟨othersParse, rfl⟩⟩

omit [PeerIdentity PeerId] in
/-- What a row changes for a peer, by what stands around it. -/
theorem lastGrant_without_iff {serde : SerdeJson}
    {front back : List ConfigNodeGuardRow} {row : ConfigNodeGuardRow}
    {peer : PeerId} (granted : lastGrant serde (front ++ back) peer ≠ none) :
    lastGrant serde (front ++ row :: back) peer =
        lastGrant serde (front ++ back) peer ↔
      ∀ earlier own, lastGrant serde front peer = some earlier →
        lastGrant serde [row] peer = some own →
          lastGrant serde back peer = none → own = earlier := by
  rw [lastGrant_append] at granted
  rw [← List.singleton_append, ← List.append_assoc, lastGrant_append,
    lastGrant_append, lastGrant_append]
  cases behind : lastGrant serde back peer with
  | some later => simp
  | none =>
      cases before : lastGrant serde front peer with
      | none => exact absurd (by rw [behind, before]; rfl) granted
      | some earlier =>
          cases lastGrant serde [row] peer with
          | none => simp
          | some own => simp

theorem corruptRowsHarmless_iff {serde : SerdeJson}
    {rows : List ConfigNodeGuardRow} {list : Whitelist PeerId}
    (rebuilt : rebuildWhitelist serde rows = some list) :
    CorruptRowsHarmless serde rows list ↔
      CorruptRowsRepeat PeerId serde rows := by
  constructor
  · rintro harmless front row back rfl corrupt peer earlier own before here
      behind
    have granted : lastGrant serde (front ++ back) peer ≠ none := by
      rw [lastGrant_append, behind, before]
      exact Option.some_ne_none earlier
    rcases harmless front row back rfl corrupt peer
        (lastGrant_ne_none_iff.mp granted) with ⟨others, rest, same⟩
    rw [roles_of_rebuilt rebuilt, roles_of_rebuilt rest] at same
    exact (lastGrant_without_iff granted).mp same earlier own before here behind
  · rintro repeats front row back rfl corrupt peer named
    rcases exists_rebuilt_without rebuilt with ⟨others, rest⟩
    refine ⟨others, rest, ?_⟩
    rw [roles_of_rebuilt rebuilt, roles_of_rebuilt rest]
    exact (lastGrant_without_iff (lastGrant_ne_none_iff.mpr named)).mpr
      (repeats front row back rfl corrupt peer)

/--
The rebuilt whitelist is the fold of everything well formed in the table, and no
corrupt row changes what the others grant, exactly when no row has a corrupt
column and corrupt rows only repeat what the rows before them granted; with a
corrupt column there is no whitelist at all.
-/
theorem rebuild_ignores_malformed_iff (serde : SerdeJson)
    (rows : List ConfigNodeGuardRow) :
    IgnoresMalformed PeerId serde rows ↔
      (∀ row ∈ rows, ColumnsParse serde row) ∧
        CorruptRowsRepeat PeerId serde rows := by
  constructor
  · rintro ⟨list, rebuilt, -, harmless⟩
    exact ⟨(rebuildWhitelist_eq_wellFormed.mp rebuilt).1,
      (corruptRowsHarmless_iff rebuilt).mp harmless⟩
  · rintro ⟨parse, repeats⟩
    have rebuilt := rebuildWhitelist_eq_wellFormed.mpr
      ⟨parse, (rfl : _ = allowAll (Whitelist.new : Whitelist PeerId) _)⟩
    exact ⟨_, rebuilt, rfl, (corruptRowsHarmless_iff rebuilt).mpr repeats⟩

end Rebuild

section SmallTable

open SmallGateway

/-- Two Guards; the `check_sum_json` of the second one was cut short. -/
def oneCorruptColumn : List ConfigNodeGuardRow :=
  [⟨guardText, printRateLimit rateLimit, "[]", "[]", "0"⟩,
    ⟨clientText, printRateLimit rateLimit, "[]", "[", "0"⟩]

/-- A Guard, and a row whose `uuid` is no peer but whose `allow` names that
Guard. -/
def oneCorruptUuid : List ConfigNodeGuardRow :=
  [⟨clientText, printRateLimit rateLimit, "[]", "[]", "0"⟩,
    ⟨"not-a-peer", printRateLimit rateLimit,
      printAllow (allowing [clientText]).allow, "[]", "0"⟩]

/-- The corrupt row takes the role of a Guard from the peer of the other. -/
theorem demoted_by_corrupt_row :
    ¬ CorruptRowsRepeat BytePeer serde oneCorruptUuid := by
  intro repeats
  have corrupt : ¬ WellFormed BytePeer serde ⟨"not-a-peer",
      printRateLimit rateLimit, printAllow (allowing [clientText]).allow, "[]",
        "0"⟩ := by
    rintro ⟨-, -, parses, -⟩
    have unparsed : (PeerIdText.fromStr "not-a-peer" :
        Option BytePeer).isSome = false := by
      decide +kernel
    rw [unparsed] at parses
    cases parses
  have same := repeats [_] _ [] rfl corrupt clientPeer
    [roleGuard, roleClient] [roleClient] (by decide +kernel)
    (by decide +kernel) rfl
  exact absurd same (by decide +kernel)

/--
With a corrupt column the gateway does not start, and the first Guard is left
without roles; with a corrupt `uuid` the other row loses a role.
-/
theorem corrupt_column_stops_rebuild :
    ¬ IgnoresMalformed BytePeer serde oneCorruptColumn ∧
    (rebuildWhitelist serde oneCorruptColumn :
      Option (Whitelist BytePeer)) = none ∧
    (guardPeer, [roleGuard, roleClient]) ∈
      oneCorruptColumn.flatMap (wellFormedEntries serde) ∧
    ¬ IgnoresMalformed BytePeer serde oneCorruptUuid := by
  have stopped : (rebuildWhitelist serde oneCorruptColumn :
      Option (Whitelist BytePeer)).isNone = true := by
    decide +kernel
  have nothing := Option.isNone_iff_eq_none.mp stopped
  refine ⟨?_, nothing, ?_, ?_⟩
  · rintro ⟨list, rebuilt, -, -⟩
    rw [nothing] at rebuilt
    cases rebuilt
  · decide +kernel
  · rintro ⟨list, rebuilt, -, harmless⟩
    exact demoted_by_corrupt_row
      ((corruptRowsHarmless_iff rebuilt).mp harmless)

end SmallTable

end NuxAuth.Gateway
