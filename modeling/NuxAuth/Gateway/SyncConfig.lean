import NuxAuth.Gateway.ConfigApi
import NuxAuth.Lib.FiniteTable

/-!
# Synchronising `guard.toml`

`sync_config_loop` polls the stored configuration and rewrites three sections
of `guard.toml` when `updated_at` is not the one it applied last.  The stamp
counts whole seconds, so two configurations can carry the same one; the second
is then taken for the first, for as long as it is stored.

The runs below interleave writes of the table with the two steps of a cycle, the
fetch and its conclusion.  What a cycle concludes is right exactly when the
configuration can be told apart from the one applied last.
-/

namespace NuxAuth.Gateway

open NuxAuth.Core
open NuxAuth.Lib.FiniteTable NuxAuth.Lib.RecordedRun

/-! ## The file -/

/-- The values that are written. -/
inductive TomlValue where
  | integer (value : Int)
  | string (text : String)
  | array (texts : List String)
deriving DecidableEq

/-- The entries of a table, in order. -/
abbrev TomlTable := List (String × TomlValue)

/-- An item of the document; what the loop does not write is kept as text. -/
inductive TomlItem where
  | table (entries : TomlTable)
  | arrayOfTables (tables : List TomlTable)
  | text (source : String)
deriving DecidableEq

/-- A document by its keys. -/
abbrev DocumentMut := Table String TomlItem

/-- `i64::MAX`. -/
def i64Max : Nat := 2 ^ 63 - 1

/-- TOML integers are signed; a longer window is written as the longest one. -/
def tomlRateLimit (limit : RemoteRateLimit) : TomlItem :=
  .table [
    ("max", .integer limit.max.toNat),
    ("window_secs", .integer (min limit.windowSecs.toNat i64Max)),
    ("exempt", .array limit.exempt)]

/-- The tables of `allow`. -/
def tomlAllow (entries : List RemoteAllow) : TomlItem :=
  .arrayOfTables (entries.map fun entry => [
    ("peer", .string entry.peer),
    ("roles", .array entry.roles)])

/-- The tables of `checksum_bin`. -/
def tomlChecksumBin (entries : List RemoteCheckSum) : TomlItem :=
  .arrayOfTables (entries.map fun entry => [
    ("peer", .string entry.peer),
    ("sha256", .string entry.sha256)])

/-- The three sections are replaced. -/
def editDocument (doc : DocumentMut) (remote : RemoteConfig) : DocumentMut :=
  ((doc.insert "rate_limit" (tomlRateLimit remote.rateLimit)).insert
    "allow" (tomlAllow remote.allow)).insert
    "checksum_bin" (tomlChecksumBin remote.checkSum)

/-- How reading and writing the file went; a write that fails may leave
anything behind. -/
inductive FileAccess where
  | unreadable
  | written
  | torn (left : Option DocumentMut)

/-- The three errors of `apply_remote_config`. -/
inductive ApplyError where
  | lecture
  | tomlInvalide
  | ecriture
deriving DecidableEq

/-- The file after the call (none where it is no TOML document). -/
def applyRemoteConfig (file : Option DocumentMut) (remote : RemoteConfig)
    (access : FileAccess) : Option DocumentMut × Except ApplyError Unit :=
  match access, file with
  | .unreadable, file => (file, .error .lecture)
  | _, none => (none, .error .tomlInvalide)
  | .written, some doc => (some (editDocument doc remote), .ok ())
  | .torn left, some _ => (left, .error .ecriture)

/-- The three sections of the file are those of the configuration. -/
def HasSections (file : Option DocumentMut) (remote : RemoteConfig) : Prop :=
  ∃ doc, file = some doc ∧
    doc.lookup "rate_limit" = some (tomlRateLimit remote.rateLimit) ∧
    doc.lookup "allow" = some (tomlAllow remote.allow) ∧
    doc.lookup "checksum_bin" = some (tomlChecksumBin remote.checkSum)

/-- Two configurations that are written alike. -/
def SameSections (left right : RemoteConfig) : Prop :=
  tomlRateLimit left.rateLimit = tomlRateLimit right.rateLimit ∧
    tomlAllow left.allow = tomlAllow right.allow ∧
    tomlChecksumBin left.checkSum = tomlChecksumBin right.checkSum

instance (left right : RemoteConfig) : Decidable (SameSections left right) :=
  inferInstanceAs (Decidable (_ ∧ _ ∧ _))

instance (file : Option DocumentMut) (remote : RemoteConfig) :
    Decidable (HasSections file remote) :=
  match file with
  | none => .isFalse fun ⟨_, absent, _⟩ => nomatch absent
  | some doc => decidable_of_iff
      (doc.lookup "rate_limit" = some (tomlRateLimit remote.rateLimit) ∧
        doc.lookup "allow" = some (tomlAllow remote.allow) ∧
        doc.lookup "checksum_bin" = some (tomlChecksumBin remote.checkSum))
      ⟨fun sections => ⟨doc, rfl, sections⟩,
        fun ⟨_, here, sections⟩ => Option.some.inj here ▸ sections⟩

theorem hasSections_editDocument (doc : DocumentMut) (remote : RemoteConfig) :
    HasSections (some (editDocument doc remote)) remote := by
  refine ⟨_, rfl, ?_⟩
  simp [editDocument]

/-- A file has the sections of two configurations if they are written alike. -/
theorem HasSections.same_iff {file : Option DocumentMut}
    {left right : RemoteConfig} (sections : HasSections file left) :
    HasSections file right ↔ SameSections left right := by
  rcases sections with ⟨doc, rfl, rateLimit, allow, checksum⟩
  constructor
  · rintro ⟨other, here, otherRateLimit, otherAllow, otherChecksum⟩
    cases here
    exact ⟨Option.some.inj (rateLimit.symm.trans otherRateLimit),
      Option.some.inj (allow.symm.trans otherAllow),
      Option.some.inj (checksum.symm.trans otherChecksum)⟩
  · rintro ⟨sameRateLimit, sameAllow, sameChecksum⟩
    exact ⟨doc, rfl, sameRateLimit ▸ rateLimit, sameAllow ▸ allow,
      sameChecksum ▸ checksum⟩

theorem tomlRateLimit_inj {left right : RemoteRateLimit}
    (leftFits : left.windowSecs.toNat ≤ i64Max)
    (rightFits : right.windowSecs.toNat ≤ i64Max)
    (same : tomlRateLimit left = tomlRateLimit right) : left = right := by
  rcases left with ⟨leftMax, leftWindow, leftExempt⟩
  rcases right with ⟨rightMax, rightWindow, rightExempt⟩
  simp only [tomlRateLimit, TomlItem.table.injEq, List.cons.injEq,
    Prod.mk.injEq, true_and, TomlValue.integer.injEq, TomlValue.array.injEq,
    and_true] at same
  rcases same with ⟨max, window, rfl⟩
  dsimp only at leftFits rightFits
  have sameMax : leftMax = rightMax :=
    UInt32.toNat_inj.mp (Int.ofNat.inj max)
  have sameWindow : leftWindow = rightWindow := by
    apply UInt64.toNat_inj.mp
    omega
  rw [sameMax, sameWindow]

theorem tomlAllow_injective : Function.Injective tomlAllow := by
  intro left right same
  refine List.map_injective_iff.mpr ?_ (TomlItem.arrayOfTables.inj same)
  rintro ⟨leftPeer, leftRoles⟩ ⟨rightPeer, rightRoles⟩ entry
  simpa using entry

theorem tomlChecksumBin_injective : Function.Injective tomlChecksumBin := by
  intro left right same
  refine List.map_injective_iff.mpr ?_ (TomlItem.arrayOfTables.inj same)
  rintro ⟨leftPeer, leftSha⟩ ⟨rightPeer, rightSha⟩ entry
  simpa using entry

/-- Windows that fit are written as they are, and so is all the rest. -/
theorem sameSections_iff {left right : RemoteConfig}
    (leftFits : left.rateLimit.windowSecs.toNat ≤ i64Max)
    (rightFits : right.rateLimit.windowSecs.toNat ≤ i64Max) :
    SameSections left right ↔
      left.rateLimit = right.rateLimit ∧ left.allow = right.allow ∧
        left.checkSum = right.checkSum := by
  constructor
  · rintro ⟨rateLimit, allow, checksum⟩
    exact ⟨tomlRateLimit_inj leftFits rightFits rateLimit,
      tomlAllow_injective allow, tomlChecksumBin_injective checksum⟩
  · rintro ⟨rateLimit, allow, checksum⟩
    rw [SameSections, rateLimit, allow, checksum]
    exact ⟨rfl, rfl, rfl⟩

/-! ## The loop and the table it polls -/

/-- Whole seconds; a clock before the epoch reads as the epoch. -/
def unixNowString (now : Int) : String :=
  toString (now.toNat / 10 ^ 9)

/-- The loop between two steps: `fetched` is the answer it has to act on. -/
structure SyncState where
  table : ConfigTable
  file : Option DocumentMut
  lastUpdatedAt : Option String
  fetched : Option RemoteConfig

/-- What can happen to the loop and to the table it polls. -/
inductive SyncEvent where
  | putConfig (target : String) (input : ConfigNodeGuardInput) (now : Int)
      (written : Bool)
  | fetch (answered : Bool)
  | conclude (access : FileAccess)

/-- How a cycle ends. -/
inductive SyncAction where
  | fetchFailed
  | unchanged (remote : RemoteConfig)
  | applied (remote : RemoteConfig)
  | refused (remote : RemoteConfig) (error : ApplyError)
deriving DecidableEq

/-- The row currently stored, as the client reads it. -/
def storedRemote (serde : SerdeJson) (table : ConfigTable) (uuid : String) :
    Option RemoteConfig := do
  let row ← table.rows.find? fun row => row.uuid = uuid
  let config ← ConfigNodeGuard.ofRow serde row
  RemoteConfig.ofJson config.toJson

section Loop

variable (PeerId : Type) [PeerIdText PeerId] (serde : SerdeJson)
    (uuid : String)

/-- The table after a call of `put_config`, whatever it answered. -/
def tableAfterPut (table : ConfigTable) (target : String)
    (input : ConfigNodeGuardInput) (now : Int) (written : Bool) :
    ConfigTable :=
  match (putConfig serde table target input (unixNowString now) written :
    PutResult PeerId) with
  | .refused _ => table
  | .panicked table => table
  | .saved table _ _ => table

/-- The rest of a cycle: the stamp is compared, and the file is rewritten if it
is new. -/
def concludeCycle (state : SyncState) (remote : RemoteConfig)
    (access : FileAccess) : SyncState × List SyncAction :=
  if state.lastUpdatedAt = some remote.updatedAt then
    ({ state with fetched := none }, [.unchanged remote])
  else
    match applyRemoteConfig state.file remote access with
    | (file, .ok ()) =>
        ({ state with
            file := file
            lastUpdatedAt := some remote.updatedAt
            fetched := none },
          [.applied remote])
    | (file, .error error) =>
        ({ state with file := file, fetched := none },
          [.refused remote error])

/-- One event of the loop or of the table. -/
def stepSync (state : SyncState) :
    SyncEvent → Option (SyncState × List SyncAction)
  | .putConfig target input now written =>
      some ({ state with
        table :=
          tableAfterPut PeerId serde state.table target input now written },
        [])
  | .fetch answered =>
      match state.fetched with
      | some _ => none
      | none =>
          match (if answered then storedRemote serde state.table uuid
            else none) with
          | some remote => some ({ state with fetched := some remote }, [])
          | none => some (state, [.fetchFailed])
  | .conclude access =>
      match state.fetched with
      | none => none
      | some remote => some (concludeCycle state remote access)

/-- The loop when it starts: any table, any file, nothing applied yet. -/
def SyncState.start (table : ConfigTable) (file : Option DocumentMut) :
    SyncState where
  table := table
  file := file
  lastUpdatedAt := none
  fetched := none

end Loop

/-! ## What a step can do -/

/-- The effect of a step on the file and on the stamp, by what it logs. -/
inductive SyncEffect (state next : SyncState) : List SyncAction → Prop where
  | silent (file : next.file = state.file)
      (stamp : next.lastUpdatedAt = state.lastUpdatedAt) :
      SyncEffect state next []
  | fetchFailed (file : next.file = state.file)
      (stamp : next.lastUpdatedAt = state.lastUpdatedAt) :
      SyncEffect state next [.fetchFailed]
  | unchanged {remote : RemoteConfig} (file : next.file = state.file)
      (stamp : next.lastUpdatedAt = state.lastUpdatedAt)
      (same : state.lastUpdatedAt = some remote.updatedAt) :
      SyncEffect state next [.unchanged remote]
  | applied {remote : RemoteConfig} (file : HasSections next.file remote)
      (stamp : next.lastUpdatedAt = some remote.updatedAt)
      (different : state.lastUpdatedAt ≠ some remote.updatedAt) :
      SyncEffect state next [.applied remote]
  | refused {remote : RemoteConfig} {error : ApplyError}
      (file : error ≠ .ecriture → next.file = state.file)
      (stamp : next.lastUpdatedAt = state.lastUpdatedAt) :
      SyncEffect state next [.refused remote error]

/-- Only a successful call gives the file the three sections, and only a torn
write changes it otherwise. -/
theorem applyRemoteConfig_cases (file : Option DocumentMut)
    (remote : RemoteConfig) (access : FileAccess) :
    (∃ next, applyRemoteConfig file remote access = (next, .ok ()) ∧
        HasSections next remote) ∨
      ∃ next error, applyRemoteConfig file remote access =
          (next, .error error) ∧ (error ≠ .ecriture → next = file) := by
  cases access with
  | unreadable => exact Or.inr ⟨file, .lecture, by simp [applyRemoteConfig]⟩
  | written =>
      cases file with
      | none => exact Or.inr ⟨none, .tomlInvalide, rfl, fun _ => rfl⟩
      | some doc =>
          exact Or.inl ⟨_, rfl, hasSections_editDocument doc remote⟩
  | torn left =>
      cases file with
      | none => exact Or.inr ⟨none, .tomlInvalide, rfl, fun _ => rfl⟩
      | some doc =>
          exact Or.inr ⟨left, .ecriture, rfl, fun other => absurd rfl other⟩

theorem concludeCycle_effect (state : SyncState) (remote : RemoteConfig)
    (access : FileAccess) :
    SyncEffect state (concludeCycle state remote access).1
      (concludeCycle state remote access).2 := by
  rw [concludeCycle]
  split
  · rename_i same
    exact .unchanged rfl rfl same
  · rename_i different
    rcases applyRemoteConfig_cases state.file remote access with
      ⟨next, result, sections⟩ | ⟨next, error, result, kept⟩
    · rw [result]
      exact .applied sections rfl different
    · rw [result]
      exact .refused kept rfl

section Runs

variable {PeerId : Type} [PeerIdText PeerId] {serde : SerdeJson}
    {uuid : String}

theorem stepSync_effect {state next : SyncState} {event : SyncEvent}
    {actions : List SyncAction}
    (taken : stepSync PeerId serde uuid state event = some (next, actions)) :
    SyncEffect state next actions := by
  cases event with
  | putConfig target input now written =>
      cases taken
      exact .silent rfl rfl
  | fetch answered =>
      rw [stepSync] at taken
      split at taken
      · cases taken
      · split at taken
        · cases taken
          exact .silent rfl rfl
        · cases taken
          exact .fetchFailed rfl rfl
  | conclude access =>
      rw [stepSync] at taken
      split at taken
      · cases taken
      · rename_i remote fetched
        have effect := concludeCycle_effect state remote access
        rw [Option.some.inj taken] at effect
        exact effect

/-! ## What the file and the stamp come from -/

/-- One recorded step. -/
abbrev SyncTransition := Transition SyncState SyncEvent SyncAction

/-- The configuration that was applied. -/
def SyncAction.applied? : SyncAction → Option RemoteConfig
  | .applied remote => some remote
  | _ => none

/-- A write of the file: of a configuration, or torn. -/
def SyncAction.rewrite? : SyncAction → Option (Option RemoteConfig)
  | .applied remote => some (some remote)
  | .refused _ .ecriture => some none
  | _ => none

/-- The configurations applied so far. -/
def applications (trace : List SyncTransition) : List RemoteConfig :=
  (trace.flatMap Transition.actions).filterMap SyncAction.applied?

/-- The writes of `guard.toml` so far, the torn ones among them. -/
def rewrites (trace : List SyncTransition) : List (Option RemoteConfig) :=
  (trace.flatMap Transition.actions).filterMap SyncAction.rewrite?

/-- Nothing hides the configuration from the loop: if the one applied last has
the same stamp, it has the same sections, and the file was not written since. -/
def Distinguished (earlier : List SyncTransition) (remote : RemoteConfig) :
    Prop :=
  ∀ applied, (applications earlier).getLast? = some applied →
    applied.updatedAt = remote.updatedAt →
      SameSections applied remote ∧
        (rewrites earlier).getLast? = some (some applied)

instance (earlier : List SyncTransition) (remote : RemoteConfig) :
    Decidable (Distinguished earlier remote) :=
  match latest : (applications earlier).getLast? with
  | none => .isTrue fun applied here => by
      rw [latest] at here
      cases here
  | some last => decidable_of_iff
      (last.updatedAt = remote.updatedAt → SameSections last remote ∧
        (rewrites earlier).getLast? = some (some last))
      ⟨fun alike applied here => by
          rw [latest] at here
          cases here
          exact alike,
        fun distinguished => distinguished last latest⟩

/-- The stamp is that of the last application, and the file is as the last
write left it. -/
structure Follows (trace : List SyncTransition) (state : SyncState) :
    Prop where
  stamp : state.lastUpdatedAt =
    (applications trace).getLast?.map RemoteConfig.updatedAt
  file : ∀ applied, (rewrites trace).getLast? = some (some applied) →
    HasSections state.file applied

theorem applications_snoc (trace : List SyncTransition)
    (last : SyncTransition) :
    applications (trace ++ [last]) =
      applications trace ++ last.actions.filterMap SyncAction.applied? := by
  simp [applications]

theorem rewrites_snoc (trace : List SyncTransition) (last : SyncTransition) :
    rewrites (trace ++ [last]) =
      rewrites trace ++ last.actions.filterMap SyncAction.rewrite? := by
  simp [rewrites]

/-- A transition that writes nothing keeps what the trace says. -/
theorem Follows.quiet {trace : List SyncTransition} {last : SyncTransition}
    (follows : Follows trace last.before)
    (silent : last.actions.filterMap SyncAction.rewrite? = [])
    (unapplied : last.actions.filterMap SyncAction.applied? = [])
    (file : last.after.file = last.before.file)
    (stamp : last.after.lastUpdatedAt = last.before.lastUpdatedAt) :
    Follows (trace ++ [last]) last.after := by
  constructor
  · rw [applications_snoc, unapplied, List.append_nil, stamp]
    exact follows.stamp
  · intro applied latest
    rw [rewrites_snoc, silent, List.append_nil] at latest
    rw [file]
    exact follows.file applied latest

theorem Follows.step {trace : List SyncTransition} {last : SyncTransition}
    (follows : Follows trace last.before)
    (effect : SyncEffect last.before last.after last.actions) :
    Follows (trace ++ [last]) last.after := by
  rcases last with ⟨before, event, actions, after⟩
  cases effect with
  | silent file stamp => exact follows.quiet rfl rfl file stamp
  | fetchFailed file stamp => exact follows.quiet rfl rfl file stamp
  | unchanged file stamp same => exact follows.quiet rfl rfl file stamp
  | @applied remote file stamp different =>
      constructor
      · rw [applications_snoc]
        simpa [SyncAction.applied?] using stamp
      · intro applied latest
        rw [rewrites_snoc] at latest
        simp only [List.filterMap_cons, SyncAction.rewrite?,
          List.filterMap_nil, List.getLast?_append, List.getLast?_singleton,
          Option.some_or, Option.some.injEq] at latest
        rw [← latest]
        exact file
  | @refused remote error file stamp =>
      cases error with
      | lecture => exact follows.quiet rfl rfl (file (by simp)) stamp
      | tomlInvalide => exact follows.quiet rfl rfl (file (by simp)) stamp
      | ecriture =>
          constructor
          · rw [applications_snoc]
            simp only [List.filterMap_cons, SyncAction.applied?,
              List.filterMap_nil, List.append_nil]
            exact stamp.trans follows.stamp
          · intro applied latest
            rw [rewrites_snoc] at latest
            simp [SyncAction.rewrite?] at latest

theorem follows_of_run {table : ConfigTable} {file : Option DocumentMut}
    {trace : List SyncTransition} {finish : SyncState}
    (run : Run (stepSync PeerId serde uuid) (.start table file) trace finish) :
    Follows trace finish := by
  refine run.history ⟨rfl, fun applied latest => by cases latest⟩ ?_
  intro trace state event next actions prior follows taken
  exact Follows.step follows (stepSync_effect taken)

/-- Without torn writes, every write was an application. -/
theorem rewrites_eq_of_whole {trace : List SyncTransition}
    (whole : none ∉ rewrites trace) :
    rewrites trace = (applications trace).map some := by
  unfold rewrites at whole ⊢
  unfold applications
  generalize trace.flatMap Transition.actions = log at whole ⊢
  induction log with
  | nil => rfl
  | cons action rest induction =>
      cases action with
      | applied remote =>
          simp only [List.filterMap_cons, SyncAction.rewrite?,
            SyncAction.applied?, List.mem_cons, not_or] at whole ⊢
          rw [induction whole.2, List.map_cons]
      | refused remote error =>
          cases error with
          | ecriture => simp [SyncAction.rewrite?] at whole
          | lecture => exact induction whole
          | tomlInvalide => exact induction whole
      | fetchFailed => exact induction whole
      | unchanged remote => exact induction whole

/--
A cycle that applied the stored configuration, or took it for the one applied
before, leaves its sections in the file if they can be told apart; and only
then, as long as no write was torn.
-/
theorem concluded_iff_distinguished (table : ConfigTable)
    (file : Option DocumentMut) {trace : List SyncTransition}
    {finish : SyncState}
    (run : Run (stepSync PeerId serde uuid) (.start table file) trace finish)
    {earlier later : List SyncTransition} {mark : SyncTransition}
    (whole : trace = earlier ++ mark :: later) {remote : RemoteConfig}
    (concluded : mark.actions = [.applied remote] ∨
      mark.actions = [.unchanged remote]) :
    (Distinguished earlier remote → HasSections mark.after.file remote) ∧
      (none ∉ rewrites earlier →
        HasSections mark.after.file remote → Distinguished earlier remote) := by
  subst whole
  rcases run.transition with ⟨prior, taken, -⟩
  have follows := follows_of_run prior
  have effect := stepSync_effect taken
  rcases concluded with now | now
  · rw [now] at effect
    cases effect with
    | applied sections stamp different =>
        refine ⟨fun _ => sections, ?_⟩
        intro _ _ applied latest same
        rw [follows.stamp, latest] at different
        exact absurd (congrArg some same) different
  · rw [now] at effect
    cases effect with
    | unchanged kept stamp same =>
        rw [follows.stamp] at same
        rcases Option.map_eq_some_iff.mp same with ⟨applied, latest, stamped⟩
        rw [kept]
        constructor
        · intro distinguished
          rcases distinguished applied latest stamped with ⟨alike, lastWrite⟩
          exact (follows.file applied lastWrite).same_iff.mpr alike
        · intro untorn sections other latestOther _
          have lastWrite : (rewrites earlier).getLast? =
              some (some other) := by
            rw [rewrites_eq_of_whole untorn, List.getLast?_map, latestOther]
            rfl
          exact ⟨(follows.file other lastWrite).same_iff.mp sections,
            lastWrite⟩

end Runs

section SmallRuns

open SmallGateway

/-- One cycle of the loop, with the exchange and the file in order. -/
def cycle : List SyncEvent := [.fetch true, .conclude .written]

/-- The configuration of the last cycle of a run, if it concluded that nothing
had changed. -/
def lastUnchanged (trace : List SyncTransition) : Option RemoteConfig :=
  trace.getLast?.bind fun last =>
    match last.actions with
    | [.unchanged remote] => some remote
    | _ => none

theorem eq_dropLast_of_lastUnchanged {trace : List SyncTransition}
    {remote : RemoteConfig} (last : lastUnchanged trace = some remote) :
    ∃ mark, trace = trace.dropLast ++ [mark] ∧
      mark.actions = [.unchanged remote] := by
  rcases Option.bind_eq_some_iff.mp last with ⟨mark, isLast, concluded⟩
  refine ⟨mark, (List.dropLast_append_getLast? mark isLast).symm, ?_⟩
  split at concluded
  · rename_i unchanged
    rw [unchanged, Option.some.inj concluded]
  · cases concluded

/-- The second cycle fetches what the first one applied. -/
theorem concluded_iff_distinguished_twice :
    ∃ trace finish,
      Run (stepSync BytePeer serde guardText) (.start emptyTable (some ∅))
        trace finish ∧
      trace.map Transition.event =
        .putConfig guardText (allowing [clientText]) 0 true :: cycle ++
          cycle ∧
      ∃ remote, lastUnchanged trace = some remote ∧
        HasSections finish.file remote := by
  have computed : (execute (stepSync BytePeer serde guardText)
      (.start emptyTable (some ∅))
      (.putConfig guardText (allowing [clientText]) 0 true :: cycle ++
        cycle)).any
      (fun result => (lastUnchanged result.1).any fun remote =>
        decide (Distinguished result.1.dropLast remote)) = true := by
    decide +kernel
  rcases exists_run_of_any computed with
    ⟨trace, finish, run, events, observed⟩
  simp only [Option.any_eq_true, decide_eq_true_eq] at observed
  rcases observed with ⟨remote, last, distinguished⟩
  rcases eq_dropLast_of_lastUnchanged last with ⟨mark, whole, unchanged⟩
  have kept := (concluded_iff_distinguished emptyTable (some ∅) run whole
    (Or.inr unchanged)).1 distinguished
  have reached : Run (stepSync BytePeer serde guardText)
      (.start emptyTable (some ∅)) (trace.dropLast ++ [mark]) finish :=
    whole ▸ run
  rw [reached.snoc_inv.2.2] at kept
  exact ⟨trace, finish, run, events, remote, last, kept⟩

/-- Two writes in one second: the client that the second one drops stays in
`guard.toml`, and the cycle finds nothing changed. -/
theorem second_write_lost :
    ∃ trace finish,
      Run (stepSync BytePeer serde guardText) (.start emptyTable (some ∅))
        trace finish ∧
      trace.map Transition.event =
        .putConfig guardText (allowing [clientText]) 0 true :: cycle ++
          .putConfig guardText (allowing []) 900000000 true :: cycle ∧
      ∃ remote, storedRemote serde finish.table guardText = some remote ∧
        lastUnchanged trace = some remote ∧ remote.allow = [] ∧
        finish.file.bind (fun doc => doc.lookup "allow") =
          some (tomlAllow [⟨clientText, []⟩]) ∧
        ¬ HasSections finish.file remote := by
  have computed : (execute (stepSync BytePeer serde guardText)
      (.start emptyTable (some ∅))
      (.putConfig guardText (allowing [clientText]) 0 true :: cycle ++
        .putConfig guardText (allowing []) 900000000 true :: cycle)).any
      (fun result =>
        (storedRemote serde result.2.table guardText).any fun remote =>
          decide (lastUnchanged result.1 = some remote ∧ remote.allow = [] ∧
            result.2.file.bind (fun doc => doc.lookup "allow") =
              some (tomlAllow [⟨clientText, []⟩]) ∧
            ¬ HasSections result.2.file remote)) = true := by
    decide +kernel
  rcases exists_run_of_any computed with
    ⟨trace, finish, run, events, observed⟩
  simp only [Option.any_eq_true, decide_eq_true_eq] at observed
  rcases observed with ⟨remote, stored, lost⟩
  exact ⟨trace, finish, run, events, remote, stored, lost⟩

end SmallRuns

end NuxAuth.Gateway
