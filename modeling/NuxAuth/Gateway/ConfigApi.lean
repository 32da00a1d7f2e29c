import NuxAuth.Gateway.Service
import NuxAuth.Lib.JsonValue
import NuxAuth.Lib.PathRouting

/-!
# What `sync-config` asks the gateway for

`fetch_remote_config` asks for `/api/v1/private/configs/{uuid}`, on the port of
the router that serves the Guards.  That router knows
`/api/v1/configs/:uuid` and `/api/v1/nodes/:peer_id/state` and nothing else, so
every request of the client is answered by the fallback.

The bodies do agree: what `ConfigNodeGuard` is written as, `RemoteConfig` reads
with the same fields.
-/

namespace NuxAuth.Gateway

open NuxAuth.Core
open NuxAuth.Lib.JsonValue NuxAuth.Lib.KeyedList NuxAuth.Lib.PathRouting

/-! ## The body of `get_config` -/

/-- The limits as `serde` writes them. -/
def RateLimit.toJson (limit : RateLimit) : Json :=
  .object [
    ("max", .number limit.max.toNat),
    ("window_secs", .number limit.windowSecs.toNat),
    ("exempt", .array (limit.exempt.map Json.string))]

/-- One allowed peer. -/
def Allow.toJson (entry : Allow) : Json :=
  .object [
    ("peer", .string entry.peer),
    ("roles", .array (entry.roles.map Json.string))]

/-- One fingerprint. -/
def CheckSum.toJson (entry : CheckSum) : Json :=
  .object [
    ("peer", .string entry.peer),
    ("sha256", .string entry.sha256)]

/-- The body of an answer. -/
def ConfigNodeGuard.toJson (config : ConfigNodeGuard) : Json :=
  .object [
    ("uuid", .string config.uuid),
    ("rate_limit", config.rateLimit.toJson),
    ("allow", .array (config.allow.map Allow.toJson)),
    ("check_sum", .array (config.checkSum.map CheckSum.toJson)),
    ("updated_at", .string config.updatedAt)]

/-! ## What the client reads of it -/

/-- The limits as the client reads them. -/
structure RemoteRateLimit where
  max : UInt32
  windowSecs : UInt64
  exempt : List String
deriving DecidableEq

/-- An allowed peer as the client reads it. -/
structure RemoteAllow where
  peer : String
  roles : List String
deriving DecidableEq

/-- A fingerprint as the client reads it. -/
structure RemoteCheckSum where
  peer : String
  sha256 : String
deriving DecidableEq

/-- The configuration as the client reads it; other fields are passed over. -/
structure RemoteConfig where
  rateLimit : RemoteRateLimit
  allow : List RemoteAllow
  checkSum : List RemoteCheckSum
  updatedAt : String
deriving DecidableEq

/-- The client must find both limits. -/
def RemoteRateLimit.ofJson (json : Json) : Option RemoteRateLimit := do
  let max ← required (asUnsigned (2 ^ 32)) "max" json
  let windowSecs ← required (asUnsigned (2 ^ 64)) "window_secs" json
  let exempt ← defaulted (asArray asString) [] "exempt" json
  return ⟨UInt32.ofNat max, UInt64.ofNat windowSecs, exempt⟩

/-- Without roles the peer gets none. -/
def RemoteAllow.ofJson (json : Json) : Option RemoteAllow := do
  let peer ← required asString "peer" json
  let roles ← defaulted (asArray asString) [] "roles" json
  return ⟨peer, roles⟩

/-- Both fields must be there. -/
def RemoteCheckSum.ofJson (json : Json) : Option RemoteCheckSum := do
  let peer ← required asString "peer" json
  let sha256 ← required asString "sha256" json
  return ⟨peer, sha256⟩

/-- The lists may be missing, the limits and the stamp may not. -/
def RemoteConfig.ofJson (json : Json) : Option RemoteConfig := do
  let rateLimit ← required RemoteRateLimit.ofJson "rate_limit" json
  let allow ← defaulted (asArray RemoteAllow.ofJson) [] "allow" json
  let checkSum ← defaulted (asArray RemoteCheckSum.ofJson) [] "check_sum" json
  let updatedAt ← required asString "updated_at" json
  return ⟨rateLimit, allow, checkSum, updatedAt⟩

/-- The stored configuration, field by field, as the client should see it. -/
def RemoteConfig.ofConfig (config : ConfigNodeGuard) : RemoteConfig where
  rateLimit := ⟨config.rateLimit.max, config.rateLimit.windowSecs,
    config.rateLimit.exempt⟩
  allow := config.allow.map fun entry => ⟨entry.peer, entry.roles⟩
  checkSum := config.checkSum.map fun entry => ⟨entry.peer, entry.sha256⟩
  updatedAt := config.updatedAt

theorem RemoteRateLimit.ofJson_toJson (limit : RateLimit) :
    RemoteRateLimit.ofJson limit.toJson =
      some ⟨limit.max, limit.windowSecs, limit.exempt⟩ := by
  have max : required (asUnsigned (2 ^ 32)) "max" limit.toJson =
      some limit.max.toNat :=
    (required_of_field rfl).trans (asUnsigned_number limit.max.toNat_lt)
  have windowSecs : required (asUnsigned (2 ^ 64)) "window_secs" limit.toJson =
      some limit.windowSecs.toNat :=
    (required_of_field rfl).trans (asUnsigned_number limit.windowSecs.toNat_lt)
  have exempt : defaulted (asArray asString) [] "exempt" limit.toJson =
      some limit.exempt :=
    (defaulted_of_field rfl).trans (asArray_string limit.exempt)
  rw [RemoteRateLimit.ofJson, max, windowSecs, exempt]
  simp

theorem RemoteAllow.ofJson_toJson (entry : Allow) :
    RemoteAllow.ofJson entry.toJson = some ⟨entry.peer, entry.roles⟩ := by
  have roles : defaulted (asArray asString) [] "roles" entry.toJson =
      some entry.roles :=
    (defaulted_of_field rfl).trans (asArray_string entry.roles)
  rw [RemoteAllow.ofJson, roles]
  rfl

theorem RemoteCheckSum.ofJson_toJson (entry : CheckSum) :
    RemoteCheckSum.ofJson entry.toJson = some ⟨entry.peer, entry.sha256⟩ :=
  rfl

/-- Every body of `get_config` is read with the fields it was made of. -/
theorem RemoteConfig.ofJson_toJson (config : ConfigNodeGuard) :
    RemoteConfig.ofJson config.toJson = some (RemoteConfig.ofConfig config) := by
  have rateLimit : required RemoteRateLimit.ofJson "rate_limit" config.toJson =
      some (RemoteConfig.ofConfig config).rateLimit :=
    (required_of_field rfl).trans
      (RemoteRateLimit.ofJson_toJson config.rateLimit)
  have allow : defaulted (asArray RemoteAllow.ofJson) [] "allow"
      config.toJson = some (RemoteConfig.ofConfig config).allow :=
    (defaulted_of_field rfl).trans
      (asArray_map RemoteAllow.ofJson_toJson config.allow)
  have checkSum : defaulted (asArray RemoteCheckSum.ofJson) [] "check_sum"
      config.toJson = some (RemoteConfig.ofConfig config).checkSum :=
    (defaulted_of_field rfl).trans
      (asArray_map RemoteCheckSum.ofJson_toJson config.checkSum)
  rw [RemoteConfig.ofJson, rateLimit, allow, checkSum]
  rfl

/-! ## The router of the Guards -/

/-- The handlers of `guard_router`. -/
inductive GuardHandler where
  | getConfig
  | postNodeState
deriving DecidableEq

/-- `guard_router`, on its loopback port. -/
def guardRouter : List (Route GuardHandler) := [
  ⟨.get, "/api/v1/configs/:uuid", .getConfig⟩,
  ⟨.post, "/api/v1/nodes/:peer_id/state", .postNodeState⟩]

/-- The statuses that the routers answer with. -/
inductive StatusCode where
  | ok
  | badRequest
  | unauthorized
  | notFound
  | methodNotAllowed
  | tooManyRequests
  | internalServerError
  | serviceUnavailable
deriving DecidableEq

/-- A status as it is displayed. -/
def StatusCode.text : StatusCode → String
  | .ok => "200 OK"
  | .badRequest => "400 Bad Request"
  | .unauthorized => "401 Unauthorized"
  | .notFound => "404 Not Found"
  | .methodNotAllowed => "405 Method Not Allowed"
  | .tooManyRequests => "429 Too Many Requests"
  | .internalServerError => "500 Internal Server Error"
  | .serviceUnavailable => "503 Service Unavailable"

/-- A response; the fallback of the router sends no body. -/
structure Response where
  status : StatusCode
  body : Option Json

/-- `IntoResponse for AppError`. -/
def AppError.intoResponse (error : AppError) : Response :=
  let (status, message) : StatusCode × String :=
    match error with
    | .unauthorized => (.unauthorized, "unauthorized")
    | .notFound => (.notFound, "not found")
    | .badRequest message => (.badRequest, message)
    | .dashboardNotConfigured =>
        (.serviceUnavailable, "dashboard non configuré (jeton manquant)")
    | .dashboardUnreachable =>
        (.serviceUnavailable, "dashboard control plane injoignable")
    | .rateLimited => (.tooManyRequests, "cadence dépassée")
    | .internal => (.internalServerError, "erreur interne")
  ⟨status, some (.object [("error", .string message)])⟩

section Serving

variable (PeerId : Type) [PeerIdText PeerId]

/-- `GET /api/v1/configs/:uuid`; `queried` is the outcome of the statement, and
a row that does not parse makes the handler panic. -/
def getConfig (serde : SerdeJson) (table : ConfigTable) (uuid : String)
    (queried : Bool) : Option Response :=
  if parsesAs PeerId uuid then
    if queried then
      match table.rows.find? fun row => row.uuid = uuid with
      | some row =>
          (ConfigNodeGuard.ofRow serde row).map fun config =>
            ⟨.ok, some config.toJson⟩
      | none => some AppError.notFound.intoResponse
    else
      some AppError.internal.intoResponse
  else
    some (AppError.badRequest
      ("uuid `" ++ uuid ++ "` n'est pas un PeerId valide")).intoResponse

/-- One request to `guard_router`: `admitted` is the answer of the limiter in
front of `get_config`, and `postNodeState` stands for the other handler. -/
def serveGuard (serde : SerdeJson) (table : ConfigTable)
    (admitted queried : Bool) (postNodeState : Captures → Option Response)
    (method : Method) (path : String) : Option Response :=
  match dispatch guardRouter method path with
  | .notFound => some ⟨.notFound, none⟩
  | .methodNotAllowed => some ⟨.methodNotAllowed, none⟩
  | .handled .getConfig captures =>
      if admitted then
        captures.head?.bind fun (_, uuid) =>
          getConfig PeerId serde table (String.ofList uuid) queried
      else
        some AppError.rateLimited.intoResponse
  | .handled .postNodeState captures => postNodeState captures

end Serving

/-! ## The request of the client -/

/-- The path of the URL that `fetch_remote_config` builds. -/
def fetchPath (uuid : String) : String :=
  "/api/v1/private/configs/" ++ uuid

/-- The URL, on the local end of the tunnel. -/
def fetchUrl (gatewayPort : UInt16) (uuid : String) : String :=
  "http://127.0.0.1:" ++ toString gatewayPort ++ fetchPath uuid

/-- What the client makes of the response; errors are the texts of
`NuxError::Network`, and `detail` is what `reqwest` adds to them. -/
def fetchRemoteConfig (gatewayPort : UInt16) (uuid : String)
    (response : Option Response) (detail : String) :
    Except String RemoteConfig :=
  match response with
  | none =>
      .error ("Gateway injoignable (" ++ fetchUrl gatewayPort uuid ++ "): " ++
        detail)
  | some response =>
      if response.status = .ok then
        match response.body.bind RemoteConfig.ofJson with
        | some remote => .ok remote
        | none => .error ("réponse Gateway invalide: " ++ detail)
      else
        .error ("Gateway a répondu " ++ response.status.text ++ " pour " ++
          fetchUrl gatewayPort uuid)

/-! ## Where the two meet -/

/-- The request for the configuration is dispatched to `get_config` with the
same `uuid`, and the client reads the body as the stored configuration. -/
structure SameApi (uuid : String) (config : ConfigNodeGuard) : Prop where
  dispatched : dispatch guardRouter .get (fetchPath uuid) =
    .handled .getConfig [("uuid".toList, uuid.toList)]
  decoded : RemoteConfig.ofJson config.toJson =
    some (RemoteConfig.ofConfig config)

/-- What the patterns and the request have in common. -/
def apiSegments : List (List Char) := [[], "api".toList, "v1".toList]

theorem pattern_configs :
    pattern "/api/v1/configs/:uuid" =
      apiSegments.map Segment.literal ++
        .literal "configs".toList :: [.capture "uuid".toList] := by
  decide +kernel

theorem pattern_nodes :
    pattern "/api/v1/nodes/:peer_id/state" =
      apiSegments.map Segment.literal ++
        .literal "nodes".toList ::
          [.capture "peer_id".toList, .literal "state".toList] := by
  decide +kernel

/-- What is written behind a slash adds its own segments. -/
theorem segments_behind (front uuid : String) :
    segments (front ++ "/" ++ uuid).toList =
      segments front.toList ++ segments uuid.toList := by
  have split : (front ++ "/" ++ uuid).toList =
      front.toList ++ '/' :: uuid.toList := by
    simp [String.toList_append]
  rw [split, segments_append_slash]

theorem segments_fetchPath (uuid : String) :
    segments (fetchPath uuid).toList =
      apiSegments ++ "private".toList ::
        "configs".toList :: segments uuid.toList := by
  have slash : fetchPath uuid = "/api/v1/private/configs" ++ "/" ++ uuid :=
    rfl
  have front : segments "/api/v1/private/configs".toList =
      apiSegments ++ ["private".toList, "configs".toList] := by
    decide +kernel
  rw [slash, segments_behind, front, List.append_assoc]
  rfl

/-- The word `private` is where both patterns have another one. -/
theorem dispatch_fetchPath (method : Method) (uuid : String) :
    dispatch guardRouter method (fetchPath uuid) = .notFound := by
  have configs : "private".toList ≠ "configs".toList := by decide +kernel
  have nodes : "private".toList ≠ "nodes".toList := by decide +kernel
  apply dispatch_eq_notFound
  intro route member
  rw [segments_fetchPath]
  simp only [guardRouter, List.mem_cons, List.not_mem_nil, or_false] at member
  rcases member with rfl | rfl
  · rw [pattern_configs]
    exact matchSegments_literal_ne configs _ _ _
  · rw [pattern_nodes]
    exact matchSegments_literal_ne nodes _ _ _

/-- The path that the documentation of both sides names is served. -/
theorem dispatch_documented_path {uuid : String} (nonempty : uuid.toList ≠ [])
    (plain : '/' ∉ uuid.toList) :
    dispatch guardRouter .get ("/api/v1/configs/" ++ uuid) =
      .handled .getConfig [("uuid".toList, uuid.toList)] := by
  have slash : "/api/v1/configs/" ++ uuid =
      "/api/v1/configs" ++ "/" ++ uuid :=
    rfl
  have front : segments "/api/v1/configs".toList =
      apiSegments ++ ["configs".toList] := by
    decide +kernel
  have matched : matchSegments (pattern "/api/v1/configs/:uuid")
      (segments ("/api/v1/configs/" ++ uuid).toList) =
        some [("uuid".toList, uuid.toList)] := by
    rw [slash, segments_behind, front, segments_of_no_slash plain,
      pattern_configs]
    exact matchSegments_capture nonempty (apiSegments ++ ["configs".toList])
  rw [guardRouter, dispatch, matched]
  rfl

variable {PeerId : Type} [PeerIdText PeerId]

/--
Whatever is stored, the request that is built for a peer reaches no handler of
the router: the client is told that nothing was found.
-/
theorem fetch_reaches_no_handler (serde : SerdeJson) (table : ConfigTable)
    (display : PeerId → String) (gatewayPort : UInt16) (uuid : PeerId)
    (config : ConfigNodeGuard) (admitted queried : Bool)
    (postNodeState : Captures → Option Response) (detail : String) :
    ¬ SameApi (display uuid) config ∧
      fetchRemoteConfig gatewayPort (display uuid)
          (serveGuard PeerId serde table admitted queried postNodeState .get
            (fetchPath (display uuid))) detail =
        .error ("Gateway a répondu 404 Not Found pour " ++
          fetchUrl gatewayPort (display uuid)) := by
  constructor
  · intro same
    have reached := same.dispatched
    rw [dispatch_fetchPath] at reached
    cases reached
  · rw [serveGuard, dispatch_fetchPath]
    rfl

/-- Asked for by the documented path, a stored configuration arrives with all
its fields. -/
theorem documented_path_synchronises {serde : SerdeJson} {table : ConfigTable}
    {uuid : String} {row : ConfigNodeGuardRow} {config : ConfigNodeGuard}
    (nonempty : uuid.toList ≠ []) (plain : '/' ∉ uuid.toList)
    (parses : parsesAs PeerId uuid = true)
    (stored : table.rows.find? (fun row => row.uuid = uuid) = some row)
    (reads : ConfigNodeGuard.ofRow serde row = some config)
    (gatewayPort : UInt16) (postNodeState : Captures → Option Response)
    (detail : String) :
    fetchRemoteConfig gatewayPort uuid
        (serveGuard PeerId serde table true true postNodeState .get
          ("/api/v1/configs/" ++ uuid)) detail =
      .ok (RemoteConfig.ofConfig config) := by
  have answered : getConfig PeerId serde table uuid true =
      some ⟨.ok, some config.toJson⟩ := by
    rw [getConfig, if_pos parses, if_pos rfl, stored]
    simp only [reads, Option.map_some]
  rw [serveGuard, dispatch_documented_path nonempty plain]
  simp only [if_true, List.head?_cons, Option.bind_some, String.ofList_toList]
  rw [answered, fetchRemoteConfig, if_pos rfl, Option.bind_some,
    RemoteConfig.ofJson_toJson]

section SmallFetch

open SmallGateway

/-- The configuration was stored. -/
def isSaved : PutResult BytePeer → Bool
  | .saved _ _ _ => true
  | _ => false

/-- The Guard asks for the configuration that was just stored for it. -/
theorem stored_config_not_fetched :
    ∃ (table : ConfigTable) (config : ConfigNodeGuard)
        (messages : List (GuardControl BytePeer)),
      putConfig serde emptyTable guardText (allowing [clientText]) "0" true =
          .saved table config messages ∧
        PeerIdText.fromStr guardText = some guardPeer ∧
        ¬ SameApi guardText config ∧
        fetchRemoteConfig 8081 guardText
            (serveGuard BytePeer serde table true true (fun _ => none) .get
              (fetchPath guardText)) "" =
          .error ("Gateway a répondu 404 Not Found pour " ++
            fetchUrl 8081 guardText) := by
  have saved : isSaved (putConfig serde emptyTable guardText
      (allowing [clientText]) "0" true) = true := by
    decide +kernel
  cases stored : (putConfig serde emptyTable guardText (allowing [clientText])
      "0" true : PutResult BytePeer) with
  | refused error =>
      rw [stored] at saved
      cases saved
  | panicked table =>
      rw [stored] at saved
      cases saved
  | saved table config messages =>
      refine ⟨table, config, messages, rfl, by decide +kernel, ?_, ?_⟩
      · intro same
        have reached := same.dispatched
        rw [dispatch_fetchPath] at reached
        cases reached
      · rw [serveGuard, dispatch_fetchPath]
        rfl

end SmallFetch

end NuxAuth.Gateway
