import NuxAuth.Gateway.GuardConfig

/-!
# Applying a remote configuration to `guard.toml`

What the gateway's `validate_input` accepts, the Guard's `load` accepts once it
is written into the file, and nothing else: both look at the same texts with the
same functions.  The three sections are then those of the configuration, and the
rest of the file is read as before.
-/

namespace NuxAuth.Gateway

open NuxAuth.Core
open NuxAuth.Lib.Checked NuxAuth.Lib.StdText NuxAuth.Lib.Toml

/-! ## The two TOML libraries -/

/-- `toml_edit::DocumentMut` with its parser, its assignment of a top-level item
and its printer, and `toml::from_str`.  `content` is what a document says. -/
structure TomlEdit where
  DocumentMut : Type
  parse : String → Option DocumentMut
  setItem : DocumentMut → String → TomlItem → DocumentMut
  print : DocumentMut → String
  content : DocumentMut → TomlRoot
  fromStr : String → Option TomlRoot

/-- A value as it is read back. -/
def TomlValue.data : TomlValue → TomlData
  | .integer value => .integer value
  | .string text => .string text
  | .array texts => .array (texts.map TomlData.string)

/-- A table as it is read back. -/
def tableData (entries : TomlTable) : TomlData :=
  .table (entries.map fun entry => (entry.1, entry.2.data))

/-- What an item is read as; an array of no tables leaves no text behind. -/
def TomlItem.data : TomlItem → Option TomlData
  | .table entries => some (tableData entries)
  | .arrayOfTables [] => none
  | .arrayOfTables (first :: rest) =>
      some (.array ((first :: rest).map tableData))
  | .text source => some (.other source)

namespace TomlEdit

/-- The three assignments of `apply_remote_config`. -/
def edit (toml : TomlEdit) (doc : toml.DocumentMut) (remote : RemoteConfig) :
    toml.DocumentMut :=
  toml.setItem
    (toml.setItem
      (toml.setItem doc "rate_limit" (tomlRateLimit remote.rateLimit))
      "allow" (tomlAllow remote.allow))
    "checksum_bin" (tomlChecksumBin remote.checkSum)

/-- The text that `apply_remote_config` writes in place of this one. -/
def rewrite (toml : TomlEdit) (text : String) (remote : RemoteConfig) :
    Option String :=
  (toml.parse text).map fun doc => toml.print (toml.edit doc remote)

/-- What is assumed of the libraries. -/
structure Lawful (toml : TomlEdit) (remote : RemoteConfig) : Prop where
  /-- both libraries read a text alike -/
  reads : ∀ text root, toml.fromStr text = some root →
    ∃ doc, toml.parse text = some doc ∧ toml.content doc = root
  /-- an assignment replaces that item, and only that item -/
  assigns : ∀ doc key item,
    toml.content (toml.setItem doc key item) =
      Function.update (toml.content doc) key item.data
  /-- what is printed parses back -/
  prints : ∀ text doc, toml.parse text = some doc →
    toml.fromStr (toml.print (toml.edit doc remote)) =
      some (toml.content (toml.edit doc remote))

end TomlEdit

section Load

variable {PeerId Multiaddr Namespace : Type} [PeerIdText PeerId]
  [DecidableEq PeerId] [MultiaddrText Multiaddr] [NamespaceText Namespace]

/-- `load`; `file` is what `read_to_string` returned. -/
def load (toml : TomlEdit) (file : Option String) :
    Except LoadError (GuardConfig PeerId Multiaddr Namespace) := do
  let text ← orError .lecture file
  let root ← orError .tomlInvalide (toml.fromStr text)
  let raw ← orError .tomlInvalide (RawConfig.ofRoot root)
  raw.resolve

theorem load_eq_ok_iff {toml : TomlEdit} {text : String}
    {config : GuardConfig PeerId Multiaddr Namespace} :
    load toml (some text) = .ok config ↔
      ∃ root raw, toml.fromStr text = some root ∧
        RawConfig.ofRoot root = some raw ∧ raw.resolve = .ok config := by
  simp only [load, bind_eq_ok_iff, orError_eq_ok_iff, Option.some.injEq]
  constructor
  · rintro ⟨_, rfl, root, parsed, raw, read, resolved⟩
    exact ⟨root, raw, parsed, read, resolved⟩
  · rintro ⟨root, raw, parsed, read, resolved⟩
    exact ⟨text, rfl, root, parsed, raw, read, resolved⟩

/-- Reading is the same wherever the two libraries find the same record. -/
theorem load_eq_resolve {toml : TomlEdit} {text : String} {root : TomlRoot}
    {raw : RawConfig} (parsed : toml.fromStr text = some root)
    (read : RawConfig.ofRoot root = some raw) :
    (load toml (some text) :
      Except LoadError (GuardConfig PeerId Multiaddr Namespace)) =
        raw.resolve := by
  show (orError _ (toml.fromStr text) >>= _) = _
  rw [parsed]
  show (orError _ (RawConfig.ofRoot root) >>= _) = _
  rw [read]
  rfl

end Load

/-! ## The three sections read back -/

/-- The window that fits the signed integers of TOML. -/
def clampedWindow (windowSecs : UInt64) : UInt64 :=
  UInt64.ofNat (min windowSecs.toNat i64Max)

theorem ofData_tomlRateLimit (limit : RemoteRateLimit) :
    defaulted RawRateLimit.ofData .default (tomlRateLimit limit).data =
      some ⟨limit.max, clampedWindow limit.windowSecs, limit.exempt⟩ := by
  have max : asUnsigned (2 ^ 32) (.integer limit.max.toNat) =
      some limit.max.toNat := asUnsigned_integer limit.max.toNat_lt
  have below : min limit.windowSecs.toNat i64Max < 2 ^ 64 :=
    Nat.lt_of_le_of_lt (Nat.min_le_left _ _) limit.windowSecs.toNat_lt
  have window : asUnsigned (2 ^ 64)
      (.integer (min (limit.windowSecs.toNat : Int) (i64Max : Int))) =
      some (min limit.windowSecs.toNat i64Max) := by
    have cast : min (limit.windowSecs.toNat : Int) (i64Max : Int) =
        (min limit.windowSecs.toNat i64Max : Nat) := by
      omega
    rw [cast]
    exact asUnsigned_integer below
  show (do
    let max ← asUnsigned (2 ^ 32) (.integer limit.max.toNat)
    let windowSecs ← asUnsigned (2 ^ 64)
      (.integer (min (limit.windowSecs.toNat : Int) (i64Max : Int)))
    let exempt ← asArray asString (.array (limit.exempt.map .string))
    return (⟨UInt32.ofNat max, UInt64.ofNat windowSecs, exempt⟩ :
      RawRateLimit)) = _
  rw [max, window, asArray_string]
  simp [clampedWindow]

theorem ofData_allow (entry : RemoteAllow) :
    RawAllow.ofData (tableData [
        ("peer", .string entry.peer), ("roles", .array entry.roles)]) =
      some ⟨entry.peer, entry.roles⟩ := by
  show (do
    let roles ← asArray asString (.array (entry.roles.map .string))
    return (⟨entry.peer, roles⟩ : RawAllow)) = _
  rw [asArray_string]
  rfl

/-- An array of tables is read back, also where it is empty and not there. -/
theorem asArray_arrayOfTables {Source Target : Type}
    {read : TomlData → Option Target} {write : Source → TomlTable}
    {image : Source → Target}
    (reads : ∀ source, read (tableData (write source)) =
      some (image source)) (sources : List Source) :
    defaulted (asArray read) []
        (TomlItem.arrayOfTables (sources.map write)).data =
      some (sources.map image) := by
  cases sources with
  | nil => rfl
  | cons first rest =>
      have items := asArray_map reads (first :: rest)
      rw [← items]
      show asArray read (.array (((first :: rest).map write).map tableData)) =
        _
      rw [List.map_map]
      rfl

theorem ofData_checksumBin (entry : RemoteCheckSum) :
    RawChecksumBin.ofData (tableData [
        ("peer", .string entry.peer), ("sha256", .string entry.sha256)]) =
      some ⟨entry.peer, entry.sha256⟩ :=
  rfl

theorem ofData_tomlAllow (entries : List RemoteAllow) :
    defaulted (asArray RawAllow.ofData) [] (tomlAllow entries).data =
      some (entries.map fun entry => ⟨entry.peer, entry.roles⟩) :=
  asArray_arrayOfTables ofData_allow entries

theorem ofData_tomlChecksumBin (entries : List RemoteCheckSum) :
    defaulted (asArray RawChecksumBin.ofData) []
        (tomlChecksumBin entries).data =
      some (entries.map fun entry => ⟨entry.peer, entry.sha256⟩) :=
  asArray_arrayOfTables ofData_checksumBin entries

/-! ## Applying and loading -/

/-- The record of a file with three sections of a remote configuration. -/
def RawConfig.withSections (raw : RawConfig) (remote : RemoteConfig) :
    RawConfig where
  listen := raw.listen
  rateLimit := ⟨remote.rateLimit.max,
    clampedWindow remote.rateLimit.windowSecs, remote.rateLimit.exempt⟩
  allow := remote.allow.map fun entry => ⟨entry.peer, entry.roles⟩
  expose := raw.expose
  checksumBin := remote.checkSum.map fun entry => ⟨entry.peer, entry.sha256⟩
  relay := raw.relay
  namespaceName := raw.namespaceName

section Edit

variable {toml : TomlEdit} {remote : RemoteConfig}

/-- The edited document differs in the three items, and there only. -/
theorem TomlEdit.Lawful.content_edit (lawful : toml.Lawful remote)
    (doc : toml.DocumentMut) :
    toml.content (toml.edit doc remote) =
      Function.update
        (Function.update
          (Function.update (toml.content doc) "rate_limit"
            (tomlRateLimit remote.rateLimit).data)
          "allow" (tomlAllow remote.allow).data)
        "checksum_bin" (tomlChecksumBin remote.checkSum).data := by
  rw [TomlEdit.edit, lawful.assigns, lawful.assigns, lawful.assigns]

theorem RawConfig.ofRoot_edit (lawful : toml.Lawful remote)
    {doc : toml.DocumentMut} {raw : RawConfig}
    (read : RawConfig.ofRoot (toml.content doc) = some raw) :
    RawConfig.ofRoot (toml.content (toml.edit doc remote)) =
      some (raw.withSections remote) := by
  have root := lawful.content_edit doc
  have sums : toml.content (toml.edit doc remote) "checksum_bin" =
      (tomlChecksumBin remote.checkSum).data := by
    rw [root, Function.update_self]
  have allow : toml.content (toml.edit doc remote) "allow" =
      (tomlAllow remote.allow).data := by
    rw [root, Function.update_of_ne (by decide), Function.update_self]
  have limit : toml.content (toml.edit doc remote) "rate_limit" =
      (tomlRateLimit remote.rateLimit).data := by
    rw [root, Function.update_of_ne (by decide),
      Function.update_of_ne (by decide), Function.update_self]
  have others : ∀ key, key ∉ ["rate_limit", "allow", "checksum_bin"] →
      toml.content (toml.edit doc remote) key = toml.content doc key := by
    intro key other
    simp only [List.mem_cons, List.not_mem_nil, or_false, not_or] at other
    rw [root, Function.update_of_ne other.2.2,
      Function.update_of_ne other.2.1, Function.update_of_ne other.1]
  simp only [RawConfig.ofRoot, Option.bind_eq_bind, Option.bind_eq_some_iff,
    Option.pure_def, Option.some.injEq] at read
  rcases read with ⟨listen, listened, -, -, -, -, expose, exposed, -, -, relay,
    reserved, name, named, rfl⟩
  rw [RawConfig.ofRoot, limit, allow, sums, ofData_tomlRateLimit,
    ofData_tomlAllow, ofData_tomlChecksumBin, others "listen" (by decide),
    others "expose" (by decide), others "relay" (by decide),
    others "namespace" (by decide), listened, exposed, reserved, named]
  rfl

/-- A file that could be read is rewritten, and can be read again. -/
theorem rewrite_of_read (lawful : toml.Lawful remote) {text : String}
    {root : TomlRoot} {raw : RawConfig}
    (parsed : toml.fromStr text = some root)
    (read : RawConfig.ofRoot root = some raw) :
    ∃ rewritten next, toml.rewrite text remote = some rewritten ∧
      toml.fromStr rewritten = some next ∧
        RawConfig.ofRoot next = some (raw.withSections remote) := by
  rcases lawful.reads text root parsed with ⟨doc, found, rfl⟩
  refine ⟨_, _, ?_, lawful.prints text doc found, ?_⟩
  · rw [TomlEdit.rewrite, found]
    rfl
  · exact RawConfig.ofRoot_edit lawful read

end Edit

/-! ## The gateway's checks and those of the Guard -/

/-- The configuration of a call, as the Guard reads it from the answer. -/
def RemoteConfig.ofInput (input : ConfigNodeGuardInput) (updatedAt : String) :
    RemoteConfig where
  rateLimit := ⟨input.rateLimit.max, input.rateLimit.windowSecs,
    input.rateLimit.exempt⟩
  allow := input.allow.map fun entry => ⟨entry.peer, entry.roles⟩
  checkSum := input.checkSum.map fun entry => ⟨entry.peer, entry.sha256⟩
  updatedAt := updatedAt

section Validate

variable {PeerId Multiaddr Namespace : Type} [PeerIdText PeerId]
  [DecidableEq PeerId] [MultiaddrText Multiaddr] [NamespaceText Namespace]

/-- The entry, if its peer parses. -/
def Allow.grant (entry : Allow) : Option (PeerId × List String) :=
  (PeerIdText.fromStr entry.peer).map fun peer => (peer, entry.roles)

/-- The entry, if both its texts parse. -/
def CheckSum.fingerprint (entry : CheckSum) : Option (PeerId × Sha256) :=
  (PeerIdText.fromStr entry.peer).bind fun peer =>
    (parseSha256Hex entry.sha256).toOption.map fun sha256 => (peer, sha256)

/-- What the three sections of a loaded file are, if they are the input's. -/
structure HoldsInput (input : ConfigNodeGuardInput)
    (config : GuardConfig PeerId Multiaddr Namespace) : Prop where
  rateLimitMax : config.rateLimitMax = input.rateLimit.max
  rateLimitWindow : config.rateLimitWindow.toNat =
    min input.rateLimit.windowSecs.toNat i64Max
  exempt : input.rateLimit.exempt.mapM parseIpAddr =
    some config.rateLimitExempt
  whitelist : ∃ grants, input.allow.mapM Allow.grant = some grants ∧
    config.whitelist = allowAll Whitelist.new grants
  checksumBin : input.checkSum.mapM CheckSum.fingerprint =
    some config.checksumBin

/-- What is left of the file is what it was. -/
structure KeepsRest (before after : GuardConfig PeerId Multiaddr Namespace) :
    Prop where
  listen : after.listen = before.listen
  expose : after.expose = before.expose
  relay : after.relay = before.relay
  namespaceName : after.namespaceName = before.namespaceName

theorem requireOr_eq_ok_iff {test : Bool} {message : String} {value : Unit} :
    requireOr test message = .ok value ↔ test = true := by
  cases test with
  | false => simp [requireOr]
  | true => simp [requireOr]

/-- The Guard's decoding of a fingerprint, in the words of the gateway. -/
theorem parseSha256Hex_isSome_iff (value : String) :
    (parseSha256Hex value).toOption.isSome ↔
      ∃ bytes, hexDecode (trim value) = some bytes ∧
        bytes.length = sha256Len := by
  rw [parseSha256Hex]
  cases hexDecode (trim value) with
  | none => simp [Except.toOption]
  | some bytes =>
      by_cases length : bytes.length = sha256Len
      · simp [length, Except.toOption]
      · simp [length, Except.toOption]

omit [DecidableEq PeerId] in
theorem checkSum_passes_iff (entry : CheckSum) :
    (requireOr (parsesAs PeerId entry.peer)
        ("check_sum.peer `" ++ entry.peer ++ "` invalide") >>= fun _ =>
      match hexDecode (trim entry.sha256) with
      | none =>
          .error (.badRequest
            ("check_sum.sha256 `" ++ entry.sha256 ++ "` invalide"))
      | some bytes =>
          requireOr (bytes.length = sha256Len)
            ("check_sum.sha256 `" ++ entry.sha256 ++ "` doit faire " ++
              toString sha256Len ++ " octets")) = .ok () ↔
      (entry.fingerprint : Option (PeerId × Sha256)).isSome := by
  have decodes := parseSha256Hex_isSome_iff entry.sha256
  rw [check_bind_eq_ok_iff, CheckSum.fingerprint]
  cases parsed : (PeerIdText.fromStr entry.peer : Option PeerId) with
  | none => simp [parsesAs, parsed, requireOr]
  | some peer =>
      rw [Option.bind_some, Option.isSome_map, decodes]
      cases hexDecode (trim entry.sha256) with
      | none => simp
      | some bytes => simp [requireOr_eq_ok_iff, parsesAs, parsed]

omit [DecidableEq PeerId] in
/-- What the gateway accepts: every text that the Guard will parse does. -/
theorem validateInput_eq_ok_iff {input : ConfigNodeGuardInput} :
    validateInput PeerId input = .ok () ↔
      input.rateLimit.windowSecs ≠ 0 ∧
        (∀ ip ∈ input.rateLimit.exempt, (parseIpAddr ip).isSome) ∧
        (∀ entry ∈ input.allow,
          (entry.grant : Option (PeerId × List String)).isSome) ∧
        ∀ entry ∈ input.checkSum,
          (entry.fingerprint : Option (PeerId × Sha256)).isSome := by
  rw [validateInput]
  rw [check_bind_eq_ok_iff, check_bind_eq_ok_iff, check_bind_eq_ok_iff,
    forM_eq_ok_iff, forM_eq_ok_iff, forM_eq_ok_iff]
  simp only [requireOr_eq_ok_iff, decide_eq_true_eq]
  refine and_congr_right fun _ => and_congr_right fun _ => ?_
  refine and_congr ?_ ?_
  · refine forall₂_congr fun entry _ => ?_
    rw [Allow.grant, Option.isSome_map, parsesAs]
  · exact forall₂_congr fun entry _ => checkSum_passes_iff entry

/-! ## Both validators agree -/

theorem clampedWindow_toNat (windowSecs : UInt64) :
    (clampedWindow windowSecs).toNat = min windowSecs.toNat i64Max := by
  have below : min windowSecs.toNat i64Max < 2 ^ 64 :=
    Nat.lt_of_le_of_lt (Nat.min_le_left _ _) windowSecs.toNat_lt
  rw [clampedWindow, UInt64.toNat_ofNat', Nat.mod_eq_of_lt below]

theorem clampedWindow_ne_zero_iff (windowSecs : UInt64) :
    clampedWindow windowSecs ≠ 0 ↔ windowSecs ≠ 0 := by
  rw [not_iff_not, ← UInt64.toNat_inj, ← UInt64.toNat_inj,
    clampedWindow_toNat]
  simp [i64Max]

variable {input : ConfigNodeGuardInput} {updatedAt : String}
  {raw : RawConfig}

variable (PeerId) in
omit [DecidableEq PeerId] in
theorem mapM_allow (raw : RawConfig) (input : ConfigNodeGuardInput)
    (updatedAt : String) :
    ((raw.withSections (.ofInput input updatedAt)).allow.mapM RawAllow.grant :
        Option (List (PeerId × List String))) =
      input.allow.mapM Allow.grant := by
  rw [RawConfig.withSections, RemoteConfig.ofInput, List.mapM_map,
    List.mapM_map]
  rfl

variable (PeerId) in
omit [DecidableEq PeerId] in
theorem mapM_checksumBin (raw : RawConfig) (input : ConfigNodeGuardInput)
    (updatedAt : String) :
    ((raw.withSections (.ofInput input updatedAt)).checksumBin.mapM
        RawChecksumBin.fingerprint : Option (List (PeerId × Sha256))) =
      input.checkSum.mapM CheckSum.fingerprint := by
  rw [RawConfig.withSections, RemoteConfig.ofInput, List.mapM_map,
    List.mapM_map]
  rfl

omit [MultiaddrText Multiaddr] [NamespaceText Namespace] in
/-- The sections resolve to what the input holds, if its window is not 0. -/
theorem resolvesSections_iff
    {config : GuardConfig PeerId Multiaddr Namespace} :
    ResolvesSections (raw.withSections (.ofInput input updatedAt)) config ↔
      input.rateLimit.windowSecs ≠ 0 ∧ HoldsInput input config := by
  have allow := mapM_allow PeerId raw input updatedAt
  have sums := mapM_checksumBin PeerId raw input updatedAt
  constructor
  · rintro ⟨window, max, seconds, exempt, list, fingerprints⟩
    rw [allow] at list
    rw [sums] at fingerprints
    refine ⟨(clampedWindow_ne_zero_iff _).mp window, max, ?_, exempt, list,
      fingerprints⟩
    rw [seconds]
    exact clampedWindow_toNat _
  · rintro ⟨window, max, seconds, exempt, list, fingerprints⟩
    rw [← allow] at list
    rw [← sums] at fingerprints
    refine ⟨(clampedWindow_ne_zero_iff _).mpr window, max, ?_, exempt, list,
      fingerprints⟩
    apply UInt64.toNat_inj.mp
    rw [seconds]
    exact (clampedWindow_toNat _).symm

omit [PeerIdText PeerId] [DecidableEq PeerId] in
theorem keepsRest {before after : GuardConfig PeerId Multiaddr Namespace}
    {remote : RemoteConfig} (first : ResolvesLocal raw before)
    (second : ResolvesLocal (raw.withSections remote) after) :
    KeepsRest before after where
  listen := Option.some.inj (second.listen.symm.trans first.listen)
  expose := Except.ok.inj (second.expose.symm.trans first.expose)
  relay := Except.ok.inj (second.relay.symm.trans first.relay)
  namespaceName :=
    Except.ok.inj (second.namespaceName.symm.trans first.namespaceName)

/-- Every accepted input resolves, in a file whose rest resolves. -/
theorem resolve_withSections_iff
    {before : GuardConfig PeerId Multiaddr Namespace}
    (rest : ResolvesLocal raw before) :
    (∃ after : GuardConfig PeerId Multiaddr Namespace,
        (raw.withSections (.ofInput input updatedAt)).resolve = .ok after) ↔
      validateInput PeerId input = .ok () := by
  rw [validateInput_eq_ok_iff, ← mapM_isSome_iff, ← mapM_isSome_iff,
    ← mapM_isSome_iff]
  constructor
  · rintro ⟨after, resolved⟩
    rcases resolve_eq_ok_iff.mp resolved with ⟨-, sections⟩
    rcases resolvesSections_iff.mp sections with ⟨window, holds⟩
    rcases holds.whitelist with ⟨grants, granted, -⟩
    rw [holds.exempt, granted, holds.checksumBin]
    exact ⟨window, rfl, rfl, rfl⟩
  · rintro ⟨window, exempted, allowed, summed⟩
    rcases Option.isSome_iff_exists.mp exempted with ⟨exempt, exempted⟩
    rcases Option.isSome_iff_exists.mp allowed with ⟨grants, allowed⟩
    rcases Option.isSome_iff_exists.mp summed with ⟨sums, summed⟩
    refine ⟨{ before with
      rateLimitMax := input.rateLimit.max
      rateLimitWindow := clampedWindow input.rateLimit.windowSecs
      rateLimitExempt := exempt
      whitelist := allowAll Whitelist.new grants
      checksumBin := sums }, ?_⟩
    apply resolve_eq_ok_iff.mpr
    refine ⟨⟨rest.listen, rest.expose, rest.relay, rest.namespaceName,
      rest.paired⟩, resolvesSections_iff.mpr ⟨window, ?_⟩⟩
    exact ⟨rfl, clampedWindow_toNat _, exempted, ⟨grants, allowed, rfl⟩,
      summed⟩

/--
Where the Guard loads its file, it loads the rewritten one exactly if the
gateway accepts the configuration; then the three sections are those of the
configuration and the rest is what it was, and applying it again changes
nothing.
-/
theorem apply_then_load_iff_valid {toml : TomlEdit}
    (input : ConfigNodeGuardInput) (updatedAt : String)
    (lawful : toml.Lawful (.ofInput input updatedAt)) {text : String}
    {before : GuardConfig PeerId Multiaddr Namespace}
    (loaded : load toml (some text) = .ok before) :
    ∃ rewritten, toml.rewrite text (.ofInput input updatedAt) =
        some rewritten ∧
      ((∃ after : GuardConfig PeerId Multiaddr Namespace,
          load toml (some rewritten) = .ok after) ↔
        validateInput PeerId input = .ok ()) ∧
      (∀ after : GuardConfig PeerId Multiaddr Namespace,
        load toml (some rewritten) = .ok after →
          HoldsInput input after ∧ KeepsRest before after) ∧
      ∃ again, toml.rewrite rewritten (.ofInput input updatedAt) =
          some again ∧
        (load toml (some again) :
          Except LoadError (GuardConfig PeerId Multiaddr Namespace)) =
          load toml (some rewritten) := by
  rcases load_eq_ok_iff.mp loaded with ⟨root, raw, parsed, read, resolved⟩
  rcases resolve_eq_ok_iff.mp resolved with ⟨rest, -⟩
  rcases rewrite_of_read lawful parsed read with
    ⟨rewritten, next, writes, parsedNext, readNext⟩
  rcases rewrite_of_read lawful parsedNext readNext with
    ⟨again, final, writesAgain, parsedFinal, readFinal⟩
  refine ⟨rewritten, writes, ?_, ?_, again, writesAgain, ?_⟩
  · rw [load_eq_resolve parsedNext readNext]
    exact resolve_withSections_iff rest
  · intro after loadedNext
    rw [load_eq_resolve parsedNext readNext] at loadedNext
    rcases resolve_eq_ok_iff.mp loadedNext with ⟨restNext, sections⟩
    exact ⟨(resolvesSections_iff.mp sections).2, keepsRest rest restNext⟩
  · rw [load_eq_resolve parsedFinal readFinal,
      load_eq_resolve parsedNext readNext]
    rfl

end Validate

section SmallFile

open SmallGateway

/-- An address or a name, kept as its text. -/
structure PlainText where
  text : String

instance : MultiaddrText PlainText where
  fromStr text :=
    if text.toList.head? = some '/' then some ⟨text⟩ else none

instance : NamespaceText PlainText where
  new text := if text.toList.length ≤ 255 then some ⟨text⟩ else none

/-- A file that only sets the address. -/
@[irreducible]
def smallText : String := "listen = \"/ip4/127.0.0.1/tcp/4588\"\n"

/-- The same file with the three sections. -/
@[irreducible]
def smallRewritten : String :=
  smallText ++ "\n[rate_limit]\nmax = 120\nwindow_secs = 60\nexempt = []\n" ++
    "\n[[allow]]\npeer = \"" ++ clientText ++ "\"\nroles = []\n"

/-- What the first one parses to. -/
def smallRoot : TomlRoot := fun key =>
  if key = "listen" then some (.string "/ip4/127.0.0.1/tcp/4588") else none

/-- The configuration that is applied to it. -/
def smallRemote : RemoteConfig := .ofInput (allowing [clientText]) "1"

/-- The values of a document after the three assignments. -/
def assigned3 (root : TomlRoot) : TomlRoot :=
  Function.update
    (Function.update
      (Function.update root "rate_limit"
        (tomlRateLimit smallRemote.rateLimit).data)
      "allow" (tomlAllow smallRemote.allow).data)
    "checksum_bin" (tomlChecksumBin smallRemote.checkSum).data

/-- The libraries on the two texts of this file. -/
def smallFromStr (text : String) : Option TomlRoot :=
  if text = smallText then
    some smallRoot
  else if text = smallRewritten then
    some (assigned3 smallRoot)
  else
    none

/-- Libraries that know these two texts. -/
def smallToml : TomlEdit where
  DocumentMut := TomlRoot
  parse := smallFromStr
  setItem doc key item := Function.update doc key item.data
  print _ := smallRewritten
  content doc := doc
  fromStr := smallFromStr

theorem assigned3_assigned3 (root : TomlRoot) :
    assigned3 (assigned3 root) = assigned3 root := by
  funext key
  by_cases sums : key = "checksum_bin"
  · simp [assigned3, sums]
  · by_cases allow : key = "allow"
    · simp [assigned3, allow]
    · by_cases limit : key = "rate_limit"
      · simp [assigned3, limit]
      · simp [assigned3, sums, allow, limit]

theorem smallToml_lawful : smallToml.Lawful smallRemote where
  reads _ root parsed := ⟨root, parsed, rfl⟩
  assigns _ _ _ := rfl
  prints text doc parsed := by
    have again : smallFromStr smallRewritten =
        some (assigned3 smallRoot) := by
      rw [smallFromStr, if_neg (by decide +kernel), if_pos rfl]
    show smallFromStr smallRewritten = some (assigned3 doc)
    rw [again]
    refine congrArg some ?_
    replace parsed : smallFromStr text = some doc := parsed
    rw [smallFromStr] at parsed
    split at parsed
    · cases parsed
      rfl
    · rcases Option.ite_none_right_eq_some.mp parsed with ⟨-, same⟩
      cases same
      exact (assigned3_assigned3 smallRoot).symm

/-- A file with the address alone, before and after the configuration. -/
theorem apply_then_load_iff_valid_small :
    ∃ rewritten, smallToml.rewrite smallText smallRemote = some rewritten ∧
      ∃ after : GuardConfig BytePeer PlainText PlainText,
        load smallToml (some rewritten) = .ok after ∧
          HoldsInput (allowing [clientText]) after ∧
            after.listen = ⟨"/ip4/127.0.0.1/tcp/4588"⟩ := by
  have loaded : load smallToml (some smallText) =
      .ok (⟨⟨"/ip4/127.0.0.1/tcp/4588"⟩, 30, 60, [], Whitelist.new, [], [],
        none, none⟩ : GuardConfig BytePeer PlainText PlainText) :=
    load_eq_ok_iff.mpr ⟨smallRoot, _, if_pos rfl, rfl, rfl⟩
  rcases apply_then_load_iff_valid (allowing [clientText]) "1"
      smallToml_lawful loaded with
    ⟨rewritten, writes, accepts, holds, -⟩
  have granted : (Allow.grant ⟨clientText, []⟩ :
      Option (BytePeer × List String)).isSome := by
    decide +kernel
  have valid : validateInput BytePeer (allowing [clientText]) = .ok () := by
    apply validateInput_eq_ok_iff.mpr
    refine ⟨by decide, by simp [allowing, rateLimit], ?_, by simp [allowing]⟩
    intro entry member
    rw [List.mem_singleton.mp member]
    exact granted
  rcases accepts.mpr valid with ⟨after, loadedAfter⟩
  rcases holds after loadedAfter with ⟨input, rest⟩
  exact ⟨rewritten, writes, after, loadedAfter, input, rest.listen⟩

end SmallFile

end NuxAuth.Gateway
