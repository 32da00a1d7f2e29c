import NuxAuth.Lib.StdText
import NuxAuth.Core.GuardLoop

/-!
# Configurations stored by the gateway

The gateway caches one configuration for each Guard in a table keyed by `uuid`,
with three columns of JSON text.  `put_config` validates a configuration,
stores it and pushes the roles it implies to the running Guard;
`rebuild_whitelist` derives them again from the whole table at start-up.

What `serde_json` and `PeerId::from_str` do with text is theirs: they are
parameters.  A stored column that does not parse makes `From<Row>` panic, which
is `none` here.
-/

namespace NuxAuth.Gateway

open NuxAuth.Core
open NuxAuth.Lib.Bincode NuxAuth.Lib.KeyedList NuxAuth.Lib.StdText

/-! ## Data -/

/-- The limits of a Guard. -/
structure RateLimit where
  max : UInt32
  windowSecs : UInt64
  exempt : List String
deriving DecidableEq

/-- A peer that a Guard allows, as it was written. -/
structure Allow where
  peer : String
  roles : List String
deriving DecidableEq

/-- A fingerprint that a Guard expects, as it was written. -/
structure CheckSum where
  peer : String
  sha256 : String
deriving DecidableEq

/-- What `put_config` is given. -/
structure ConfigNodeGuardInput where
  rateLimit : RateLimit
  allow : List Allow
  checkSum : List CheckSum
deriving DecidableEq

/-- A row, with its columns of JSON text. -/
structure ConfigNodeGuardRow where
  uuid : String
  rateLimitJson : String
  allowJson : String
  checkSumJson : String
  updatedAt : String
deriving DecidableEq

/-- What is stored for a Guard. -/
structure ConfigNodeGuard where
  uuid : String
  rateLimit : RateLimit
  allow : List Allow
  checkSum : List CheckSum
  updatedAt : String
deriving DecidableEq

/-- The errors of the handlers. -/
inductive AppError where
  | unauthorized
  | notFound
  | badRequest (message : String)
  | dashboardNotConfigured
  | dashboardUnreachable
  | rateLimited
  | internal
deriving DecidableEq

/-- The table: `uuid` is its primary key. -/
structure ConfigTable where
  rows : List ConfigNodeGuardRow
  primaryKey : DistinctKeys ConfigNodeGuardRow.uuid rows

/-! ## Text formats of other libraries -/

/-- `PeerId::from_str`. -/
class PeerIdText (PeerId : Type) where
  fromStr : String → Option PeerId

/-- `serde_json::to_string` and `serde_json::from_str` on the three columns. -/
structure SerdeJson where
  rateLimitToString : RateLimit → String
  rateLimitFromStr : String → Option RateLimit
  allowToString : List Allow → String
  allowFromStr : String → Option (List Allow)
  checkSumToString : List CheckSum → String
  checkSumFromStr : String → Option (List CheckSum)

/-- What `to_string` wrote of this input, `from_str` reads back. -/
structure SerdeJson.RoundTrips (serde : SerdeJson)
    (input : ConfigNodeGuardInput) : Prop where
  rateLimit : serde.rateLimitFromStr
    (serde.rateLimitToString input.rateLimit) = some input.rateLimit
  allow : serde.allowFromStr (serde.allowToString input.allow) =
    some input.allow
  checkSum : serde.checkSumFromStr (serde.checkSumToString input.checkSum) =
    some input.checkSum

namespace ConfigNodeGuard

/-- The row that stores the configuration. -/
def intoRow (serde : SerdeJson) (config : ConfigNodeGuard)
    (updatedAt : String) : ConfigNodeGuardRow where
  uuid := config.uuid
  rateLimitJson := serde.rateLimitToString config.rateLimit
  allowJson := serde.allowToString config.allow
  checkSumJson := serde.checkSumToString config.checkSum
  updatedAt := updatedAt

/-- `From<ConfigNodeGuardRow>`; `none` where a column makes it panic. -/
def ofRow (serde : SerdeJson) (row : ConfigNodeGuardRow) :
    Option ConfigNodeGuard := do
  let rateLimit ← serde.rateLimitFromStr row.rateLimitJson
  let allow ← serde.allowFromStr row.allowJson
  let checkSum ← serde.checkSumFromStr row.checkSumJson
  return {
    uuid := row.uuid
    rateLimit := rateLimit
    allow := allow
    checkSum := checkSum
    updatedAt := row.updatedAt }

end ConfigNodeGuard

/-! ## Roles -/

/-- `ROLE_GUARD`. -/
def roleGuard : String := "gw-guard"

/-- `ROLE_CLIENT`. -/
def roleClient : String := "gw-client"

section Roles

variable {PeerId : Type} [PeerIdText PeerId]

/-- The Guard itself, then every peer it allows; invalid names are skipped. -/
def rolesForConfig (config : ConfigNodeGuard) :
    List (PeerId × List String) :=
  let own :=
    match PeerIdText.fromStr config.uuid with
    | some peer => [(peer, [roleGuard, roleClient])]
    | none => []
  own ++ config.allow.filterMap fun entry =>
    (PeerIdText.fromStr entry.peer).map fun peer => (peer, [roleClient])

end Roles

/-! ## Validation -/

section Validation

variable (PeerId : Type) [PeerIdText PeerId]

/-- The text is that of a peer. -/
def parsesAs (text : String) : Bool :=
  (PeerIdText.fromStr text : Option PeerId).isSome

/-- A check with the message of its failure. -/
def requireOr (test : Bool) (message : String) : Except AppError Unit :=
  if test then .ok () else .error (.badRequest message)

/-- `validate_input`: the first check that fails is reported. -/
def validateInput (input : ConfigNodeGuardInput) : Except AppError Unit := do
  requireOr (input.rateLimit.windowSecs ≠ 0)
    "rate_limit.window_secs doit être d'au moins 1"
  input.rateLimit.exempt.forM fun ip =>
    requireOr (parseIpAddr ip).isSome
      ("rate_limit.exempt `" ++ ip ++ "` invalide")
  input.allow.forM fun entry =>
    requireOr (parsesAs PeerId entry.peer)
      ("allow.peer `" ++ entry.peer ++ "` invalide")
  input.checkSum.forM fun entry => do
    requireOr (parsesAs PeerId entry.peer)
      ("check_sum.peer `" ++ entry.peer ++ "` invalide")
    match hexDecode (trim entry.sha256) with
    | none =>
        .error (.badRequest
          ("check_sum.sha256 `" ++ entry.sha256 ++ "` invalide"))
    | some bytes =>
        requireOr (bytes.length = sha256Len)
          ("check_sum.sha256 `" ++ entry.sha256 ++ "` doit faire " ++
            toString sha256Len ++ " octets")

end Validation

/-! ## Writing and reading back -/

/-- What a call of `put_config` has done when it sends its first command. -/
inductive PutResult (PeerId : Type) where
  | refused (error : AppError)
  | panicked (table : ConfigTable)
  | saved (table : ConfigTable) (config : ConfigNodeGuard)
      (messages : List (GuardControl PeerId))

/-- A row takes the place of the one with its key. -/
def ConfigTable.upsert (table : ConfigTable) (row : ConfigNodeGuardRow) :
    ConfigTable where
  rows := upsertBy ConfigNodeGuardRow.uuid row table.rows
  primaryKey := table.primaryKey.upsertBy row

section Handlers

variable {PeerId : Type} [PeerIdText PeerId]

/-- `PUT /api/v1/configs/:uuid`; `written` is the outcome of the statement. -/
def putConfig (serde : SerdeJson) (table : ConfigTable) (uuid : String)
    (input : ConfigNodeGuardInput) (updatedAt : String) (written : Bool) :
    PutResult PeerId :=
  if parsesAs PeerId uuid then
    match validateInput PeerId input with
    | .error error => .refused error
    | .ok () =>
        let config : ConfigNodeGuard := {
          uuid := uuid
          rateLimit := input.rateLimit
          allow := input.allow
          checkSum := input.checkSum
          updatedAt := "" }
        let row := config.intoRow serde updatedAt
        if written then
          match ConfigNodeGuard.ofRow serde row with
          | none => .panicked (table.upsert row)
          | some saved =>
              .saved (table.upsert row) saved
                ((rolesForConfig saved).map fun entry =>
                  .allow entry.1 entry.2)
        else
          .refused .internal
  else
    .refused (.badRequest
      ("uuid `" ++ uuid ++ "` n'est pas un PeerId valide"))

variable [DecidableEq PeerId]

/-- Every entry, in order, replaces what the peer had before. -/
def allowAll (list : Whitelist PeerId)
    (entries : List (PeerId × List String)) : Whitelist PeerId :=
  entries.foldl (fun list entry => list.allow entry.1 entry.2) list

/-- The rows come in the order in which the table returned them. -/
def rebuildWhitelist (serde : SerdeJson) (rows : List ConfigNodeGuardRow) :
    Option (Whitelist PeerId) :=
  rows.foldlM
    (fun list row =>
      (ConfigNodeGuard.ofRow serde row).map fun config =>
        allowAll list (rolesForConfig config))
    Whitelist.new

end Handlers

end NuxAuth.Gateway
