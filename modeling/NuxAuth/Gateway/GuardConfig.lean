import NuxAuth.Lib.Checked
import NuxAuth.Lib.Toml
import NuxAuth.Gateway.SyncConfig

/-!
# The configuration file of a Guard

`guard_config::load` reads `guard.toml` into a record of defaults and texts and
then checks every text; `apply_remote_config` assigns three top-level items of
the same document and prints it.  The gateway checks the same three items before
it stores them.

How `toml` and `toml_edit` read and print a document, and how an address or a
namespace is written, is theirs: they are parameters.
-/

namespace NuxAuth.Gateway

open NuxAuth.Core
open NuxAuth.Lib.Checked NuxAuth.Lib.StdText NuxAuth.Lib.Toml

/-! ## Text formats of other libraries -/

/-- `Multiaddr::from_str`. -/
class MultiaddrText (Multiaddr : Type) where
  fromStr : String → Option Multiaddr

/-- `Namespace::new`; `none` for a text that is too long. -/
class NamespaceText (Namespace : Type) where
  new : String → Option Namespace

/-! ## The record as it is read -/

/-- The limits of a file, with their defaults. -/
structure RawRateLimit where
  max : UInt32
  windowSecs : UInt64
  exempt : List String

/-- An allowed peer of a file. -/
structure RawAllow where
  peer : String
  roles : List String

/-- An exposed service of a file. -/
structure RawExpose where
  name : String
  port : UInt16
  role : Option String

/-- An expected fingerprint of a file. -/
structure RawChecksumBin where
  peer : String
  sha256 : String

/-- The file as it is deserialized, before its texts are checked. -/
structure RawConfig where
  listen : String
  rateLimit : RawRateLimit
  allow : List RawAllow
  expose : List RawExpose
  checksumBin : List RawChecksumBin
  relay : Option String
  namespaceName : Option String

/-- The default of `listen`. -/
def defaultListen : String := "/ip4/0.0.0.0/tcp/4588"

/-- `rate_limit::DEFAULT_MAX_PER_WINDOW`. -/
def defaultRateMax : Nat := 30

/-- `rate_limit::DEFAULT_WINDOW`. -/
def defaultRateWindowSecs : Nat := 60

/-- The limits of a file that sets none. -/
def RawRateLimit.default : RawRateLimit where
  max := UInt32.ofNat defaultRateMax
  windowSecs := UInt64.ofNat defaultRateWindowSecs
  exempt := []

/-- Each limit has a default of its own. -/
def RawRateLimit.ofData (data : TomlData) : Option RawRateLimit := do
  let field ← asRecord data
  let max ← defaulted (asUnsigned (2 ^ 32)) defaultRateMax (field 0 "max")
  let windowSecs ← defaulted (asUnsigned (2 ^ 64)) defaultRateWindowSecs
    (field 1 "window_secs")
  let exempt ← defaulted (asArray asString) [] (field 2 "exempt")
  return ⟨UInt32.ofNat max, UInt64.ofNat windowSecs, exempt⟩

/-- Without roles the peer gets none. -/
def RawAllow.ofData (data : TomlData) : Option RawAllow := do
  let field ← asRecord data
  let peer ← required asString (field 0 "peer")
  let roles ← defaulted (asArray asString) [] (field 1 "roles")
  return ⟨peer, roles⟩

/-- A service may ask for no role. -/
def RawExpose.ofData (data : TomlData) : Option RawExpose := do
  let field ← asRecord data
  let name ← required asString (field 0 "name")
  let port ← required (asUnsigned (2 ^ 16)) (field 1 "port")
  let role ← defaulted (fun value => (asString value).map some) none
    (field 2 "role")
  return ⟨name, UInt16.ofNat port, role⟩

/-- Both fields must be there. -/
def RawChecksumBin.ofData (data : TomlData) : Option RawChecksumBin := do
  let field ← asRecord data
  let peer ← required asString (field 0 "peer")
  let sha256 ← required asString (field 1 "sha256")
  return ⟨peer, sha256⟩

/-- Everything in a file has a default; unknown keys are passed over. -/
def RawConfig.ofRoot (root : TomlRoot) : Option RawConfig := do
  let listen ← defaulted asString defaultListen (root "listen")
  let rateLimit ← defaulted RawRateLimit.ofData .default (root "rate_limit")
  let allow ← defaulted (asArray RawAllow.ofData) [] (root "allow")
  let expose ← defaulted (asArray RawExpose.ofData) [] (root "expose")
  let checksumBin ← defaulted (asArray RawChecksumBin.ofData) []
    (root "checksum_bin")
  let relay ← defaulted (fun value => (asString value).map some) none
    (root "relay")
  let namespaceName ← defaulted (fun value => (asString value).map some) none
    (root "namespace")
  return ⟨listen, rateLimit, allow, expose, checksumBin, relay, namespaceName⟩

/-! ## The record as it is checked -/

/-- Why a file is refused: it is not read, it is no TOML of this form, or one of
its texts is wrong. -/
inductive LoadError where
  | lecture
  | tomlInvalide
  | config (message : String)
deriving DecidableEq

/-- The configuration of a Guard. -/
structure GuardConfig (PeerId Multiaddr Namespace : Type) where
  listen : Multiaddr
  rateLimitMax : UInt32
  /-- in seconds -/
  rateLimitWindow : UInt64
  rateLimitExempt : List IpAddr
  whitelist : Whitelist PeerId
  expose : List (String × UInt16 × Option String)
  checksumBin : List (PeerId × Sha256)
  relay : Option Multiaddr
  namespaceName : Option Namespace

/-- `parse_sha256_hex`. -/
def parseSha256Hex (value : String) : Except String Sha256 :=
  match hexDecode (trim value) with
  | none => .error "hexadécimal invalide"
  | some bytes =>
      if length : bytes.length = sha256Len then
        .ok ⟨bytes.toArray, length⟩
      else
        .error ("longueur invalide: " ++ toString bytes.length ++
          " octets, attendu " ++ toString sha256Len)

/-- The services in order; `seen` are the names met before. -/
def exposeAll (seen : List String) :
    List RawExpose → Except LoadError (List (String × UInt16 × Option String))
  | [] => .ok []
  | entry :: rest => do
      orFail (.config ("expose: service `" ++ entry.name ++
        "` défini plusieurs fois")) (entry.name ∉ seen)
      let others ← exposeAll (entry.name :: seen) rest
      return (entry.name, entry.port, entry.role) :: others

section Load

variable {PeerId Multiaddr Namespace : Type} [PeerIdText PeerId]
  [DecidableEq PeerId] [MultiaddrText Multiaddr] [NamespaceText Namespace]

/-- An entry of `allow`, added to the list. -/
def checkAllow (list : Whitelist PeerId) (entry : RawAllow) :
    Except LoadError (Whitelist PeerId) := do
  let peer ← orError (.config ("allow.peer `" ++ entry.peer ++ "` invalide"))
    (PeerIdText.fromStr entry.peer)
  return list.allow peer entry.roles

/-- An entry of `checksum_bin`. -/
def checkChecksum (entry : RawChecksumBin) :
    Except LoadError (PeerId × Sha256) := do
  let peer ← orError
    (.config ("checksum_bin.peer `" ++ entry.peer ++ "` invalide"))
    (PeerIdText.fromStr entry.peer)
  let sha256 ← (parseSha256Hex entry.sha256).mapError fun error =>
    .config ("checksum_bin.sha256 `" ++ entry.sha256 ++ "` invalide: " ++ error)
  return (peer, sha256)

/-- The address of the relay, if there is one. -/
def checkRelay : Option String → Except LoadError (Option Multiaddr)
  | none => .ok none
  | some addr => do
      let relay ← orError (.config ("relay `" ++ addr ++ "` invalide"))
        (MultiaddrText.fromStr addr)
      return some relay

/-- The namespace, if there is one. -/
def checkNamespace : Option String → Except LoadError (Option Namespace)
  | none => .ok none
  | some ns => do
      let name ← orError
        (.config ("namespace `" ++ ns ++ "` invalide: trop long"))
        (NamespaceText.new ns)
      return some name

/-- The checks of `load`, in its order. -/
def RawConfig.resolve (raw : RawConfig) :
    Except LoadError (GuardConfig PeerId Multiaddr Namespace) := do
  let listen ← orError (.config ("listen `" ++ raw.listen ++ "` invalide"))
    (MultiaddrText.fromStr raw.listen)
  orFail (.config "rate_limit.window_secs doit être d'au moins 1")
    (raw.rateLimit.windowSecs ≠ 0)
  let rateLimitExempt ← raw.rateLimit.exempt.mapM fun ip =>
    orError (.config ("rate_limit.exempt `" ++ ip ++ "` invalide"))
      (parseIpAddr ip)
  let whitelist ← raw.allow.foldlM checkAllow Whitelist.new
  let expose ← exposeAll [] raw.expose
  let checksumBin ← raw.checksumBin.mapM checkChecksum
  let relay ← checkRelay raw.relay
  let namespaceName ← checkNamespace raw.namespaceName
  orFail (.config
    "namespace exige `relay` : l'enregistrement transite par cette connexion")
    (namespaceName.isNone || relay.isSome)
  return {
    listen := listen
    rateLimitMax := raw.rateLimit.max
    rateLimitWindow := raw.rateLimit.windowSecs
    rateLimitExempt := rateLimitExempt
    whitelist := whitelist
    expose := expose
    checksumBin := checksumBin
    relay := relay
    namespaceName := namespaceName }

/-! ## What the checks let through -/

/-- The entry, if its peer parses. -/
def RawAllow.grant (entry : RawAllow) : Option (PeerId × List String) :=
  (PeerIdText.fromStr entry.peer).map fun peer => (peer, entry.roles)

/-- The entry, if both its texts parse. -/
def RawChecksumBin.fingerprint (entry : RawChecksumBin) :
    Option (PeerId × Sha256) :=
  (PeerIdText.fromStr entry.peer).bind fun peer =>
    (parseSha256Hex entry.sha256).toOption.map fun sha256 => (peer, sha256)

/-- The part of the file that nobody but the operator writes. -/
structure ResolvesLocal (raw : RawConfig)
    (config : GuardConfig PeerId Multiaddr Namespace) : Prop where
  listen : MultiaddrText.fromStr raw.listen = some config.listen
  expose : exposeAll [] raw.expose = .ok config.expose
  relay : checkRelay raw.relay = .ok config.relay
  namespaceName : checkNamespace raw.namespaceName = .ok config.namespaceName
  paired : (config.namespaceName.isNone || config.relay.isSome) = true

/-- The three sections that a remote configuration replaces. -/
structure ResolvesSections (raw : RawConfig)
    (config : GuardConfig PeerId Multiaddr Namespace) : Prop where
  window : raw.rateLimit.windowSecs ≠ 0
  rateLimitMax : config.rateLimitMax = raw.rateLimit.max
  rateLimitWindow : config.rateLimitWindow = raw.rateLimit.windowSecs
  exempt : raw.rateLimit.exempt.mapM parseIpAddr =
    some config.rateLimitExempt
  whitelist : ∃ grants, raw.allow.mapM RawAllow.grant = some grants ∧
    config.whitelist = allowAll Whitelist.new grants
  checksumBin : raw.checksumBin.mapM RawChecksumBin.fingerprint =
    some config.checksumBin

theorem foldlM_checkAllow_eq_ok_iff {entries : List RawAllow}
    {list folded : Whitelist PeerId} :
    entries.foldlM checkAllow list = .ok folded ↔
      ∃ grants, entries.mapM RawAllow.grant = some grants ∧
        folded = allowAll list grants := by
  induction entries generalizing list with
  | nil =>
      constructor
      · intro computed
        cases computed
        exact ⟨[], rfl, rfl⟩
      · rintro ⟨grants, read, rfl⟩
        cases read
        rfl
  | cons entry rest induction =>
      rw [List.foldlM_cons, List.mapM_cons, bind_eq_ok_iff, checkAllow,
        RawAllow.grant]
      cases (PeerIdText.fromStr entry.peer : Option PeerId) with
      | none => simp [orError]
      | some peer =>
          constructor
          · rintro ⟨allowed, same, computed⟩
            cases same
            rcases induction.mp computed with ⟨grants, read, rfl⟩
            exact ⟨(peer, entry.roles) :: grants, by simp [read], rfl⟩
          · rintro ⟨grants, read, folds⟩
            rcases Option.bind_eq_some_iff.mp read with
              ⟨grant, granted, later⟩
            rcases Option.bind_eq_some_iff.mp later with
              ⟨others, found, same⟩
            cases granted
            cases same
            exact ⟨_, rfl, induction.mpr ⟨others, found, folds⟩⟩

omit [DecidableEq PeerId] in
theorem checkChecksum_eq_ok_iff (entry : RawChecksumBin)
    (value : PeerId × Sha256) :
    checkChecksum entry = .ok value ↔ entry.fingerprint = some value := by
  rw [checkChecksum, RawChecksumBin.fingerprint, bind_eq_ok_iff,
    Option.bind_eq_some_iff]
  refine exists_congr fun peer => and_congr orError_eq_ok_iff ?_
  rw [bind_eq_ok_iff, Option.map_eq_some_iff]
  refine exists_congr fun sha256 => and_congr mapError_eq_ok_iff ?_
  simp [pure, Except.pure]

/-- The file is accepted if both parts of it are. -/
theorem resolve_eq_ok_iff {raw : RawConfig}
    {config : GuardConfig PeerId Multiaddr Namespace} :
    raw.resolve = .ok config ↔
      ResolvesLocal raw config ∧ ResolvesSections raw config := by
  rw [RawConfig.resolve]
  simp only [bind_eq_ok_iff, orError_eq_ok_iff, orFail_eq_ok_iff,
    foldlM_checkAllow_eq_ok_iff, mapM_eq_ok_iff checkChecksum_eq_ok_iff,
    mapM_eq_ok_iff fun _ _ => orError_eq_ok_iff, pure, Except.pure,
    Except.ok.injEq]
  constructor
  · rintro ⟨listen, parsed, ⟨⟩, window, exempt, exempted, list, allowed,
      expose, exposed, sums, summed, relay, reserved, name, named, ⟨⟩, paired,
      rfl⟩
    exact ⟨⟨parsed, exposed, reserved, named, paired⟩,
      ⟨of_decide_eq_true window, rfl, rfl, exempted, allowed, summed⟩⟩
  · rcases config with ⟨listen, max, window, exempt, list, expose, sums, relay,
      name⟩
    rintro ⟨⟨parsed, exposed, reserved, named, paired⟩,
      ⟨nonzero, rfl, rfl, exempted, allowed, summed⟩⟩
    exact ⟨listen, parsed, ⟨⟩, decide_eq_true nonzero, exempt, exempted, list,
      allowed, expose, exposed, sums, summed, relay, reserved, name, named, ⟨⟩,
      paired, rfl⟩

end Load

end NuxAuth.Gateway
