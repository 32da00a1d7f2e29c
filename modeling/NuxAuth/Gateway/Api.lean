import NuxAuth.Core.GrantedRoles
import NuxAuth.Gateway.Config
import NuxAuth.Gateway.ConfigApi
import NuxAuth.Gateway.LiveWhitelist
import NuxAuth.Gateway.WindowLimiter

/-!
# The three routers of the gateway

The dashboard reaches `admin_router` over the network, and the tunnels of the
two roles end at the ports of `guard_router` and `client_router`.  A layer in
front of a route answers in place of its handler: the admin token in front of
`put_config`, a limiter in front of `get_config` and another one, shared by two
routers, in front of `post_node_state`.  A layer is asked before the method is
compared.

A request is one step, but for `put_config`: a call that has stored its row
sends its commands one by one, and any number of calls do so side by side.
What the database and the dashboard make of a request comes with it.  Its clock
reading is that of the limiter, which is asked on the headers; the body is read
and the dashboard is asked behind it, at times that are not recorded.
-/

namespace NuxAuth.Gateway

open NuxAuth.Core
open NuxAuth.Lib.Bincode NuxAuth.Lib.JsonValue NuxAuth.Lib.PathRouting
open NuxAuth.Lib.RecordedRun NuxAuth.Lib.StdText

/-! ## Requests and replies -/

/-- A request as the extractors and the layers see it. -/
structure ApiRequest where
  method : Method
  path : String
  query : Option String
  /-- the bytes of its first `Authorization` header -/
  authorization : Option (List UInt8)
  /-- whether its content type is one of JSON -/
  jsonContent : Bool
  body : List UInt8
deriving DecidableEq

/-- What an extractor answers in place of the handler. -/
inductive Rejection where
  | invalidUtf8InPathParam
  | missingJsonContentType
  | lengthLimit
  | json
deriving DecidableEq

/-- What is handed on of a response of the dashboard. -/
structure DashboardResponse where
  status : Nat
  contentType : Option (List UInt8)
  body : List UInt8
deriving DecidableEq

/-- What becomes of a request to the dashboard. -/
inductive UpstreamOutcome where
  | unreachable
  /-- the body broke off -/
  | interrupted (status : Nat)
  | answered (response : DashboardResponse)
deriving DecidableEq

/-- A request to the dashboard; a body is sent as JSON. -/
structure UpstreamRequest where
  method : Method
  url : String
  body : Option (List UInt8)
  bearer : Option String
deriving DecidableEq

/-- What a router answers; the server sends it without its body where HEAD was
asked. -/
inductive Reply where
  | response (response : Response)
  | relayed (response : DashboardResponse)
  | rejected (rejection : Rejection)
  /-- the handler panicked and the connection was dropped -/
  | dropped

/-- A handler returns, or it panics. -/
def Reply.ofHandler : Option Response → Reply
  | some answer => .response answer
  | none => .dropped

/-- An error of the application, as its response. -/
def Reply.error (error : AppError) : Reply :=
  .response error.intoResponse

/-! ## Bodies -/

/-- The limits of a body; all but `exempt` must be given. -/
def RateLimit.ofJson (json : Json) : Option RateLimit :=
  match recordFields false ["max", "window_secs", "exempt"] json with
  | some [max, windowSecs, exempt] => do
      let max ← max.bind (asUnsigned (2 ^ 32))
      let windowSecs ← windowSecs.bind (asUnsigned (2 ^ 64))
      let exempt ← defaultOr (asArray asString) [] exempt
      return ⟨UInt32.ofNat max, UInt64.ofNat windowSecs, exempt⟩
  | _ => none

/-- One allowed peer of a body, with no roles if none are given. -/
def Allow.ofJson (json : Json) : Option Allow :=
  match recordFields false ["peer", "roles"] json with
  | some [peer, roles] => do
      let peer ← peer.bind asString
      let roles ← defaultOr (asArray asString) [] roles
      return ⟨peer, roles⟩
  | _ => none

/-- One fingerprint of a body. -/
def CheckSum.ofJson (json : Json) : Option CheckSum :=
  match recordFields false ["peer", "sha256"] json with
  | some [peer, sha256] => do
      let peer ← peer.bind asString
      let sha256 ← sha256.bind asString
      return ⟨peer, sha256⟩
  | _ => none

/-- The body of `put_config`; other fields than these are refused. -/
def ConfigNodeGuardInput.ofJson (json : Json) : Option ConfigNodeGuardInput :=
  match recordFields true ["rate_limit", "allow", "check_sum"] json with
  | some [rateLimit, allow, checkSum] => do
      let rateLimit ← rateLimit.bind RateLimit.ofJson
      let allow ← defaultOr (asArray Allow.ofJson) [] allow
      let checkSum ← defaultOr (asArray CheckSum.ofJson) [] checkSum
      return ⟨rateLimit, allow, checkSum⟩
  | _ => none

/-- The state that a body of `post_node_state` asks for. -/
def setStateInputOfJson (json : Json) : Option String :=
  match recordFields true ["state"] json with
  | some [state] => state.bind asString
  | _ => none

/-! ## Extractors -/

/-- `MAX_BODY_BYTES`. -/
def maxBodyBytes : Nat := 64 * 1024

/-- `Path<String>`. -/
def extractPath (captures : Captures) : Except Rejection String :=
  let segment := (captures.head?.map Prod.snd).getD []
  match utf8String? (percentDecode (utf8Bytes (String.ofList segment))) with
  | some text => .ok text
  | none => .error .invalidUtf8InPathParam

/-- `Bytes`, under the limit that every router sets. -/
def extractBytes (request : ApiRequest) : Except Rejection (List UInt8) :=
  if maxBodyBytes < request.body.length then .error .lengthLimit
  else .ok request.body

/-- `Json<T>`. -/
def extractJson {Value : Type} (parse : List UInt8 → Option Json)
    (read : Json → Option Value) (request : ApiRequest) :
    Except Rejection Value :=
  if request.jsonContent then
    match extractBytes request with
    | .error rejection => .error rejection
    | .ok bytes =>
        match (parse bytes).bind read with
        | some value => .ok value
        | none => .error .json
  else
    .error .missingJsonContentType

/-! ## The token of the dashboard -/

/-- `HeaderValue::to_str` accepts these bytes only. -/
def visibleAscii (byte : UInt8) : Bool :=
  (0x20 ≤ byte && byte < 0x7f) || byte = 0x09

/-- `str::strip_prefix`, on bytes. -/
def stripPrefix (front bytes : List UInt8) : Option (List UInt8) :=
  if bytes.take front.length = front then some (bytes.drop front.length)
  else none

/-- The layer in front of `put_config`: the header must be `Bearer` and the
token, compared over its whole length. -/
def requireBearer (expected : String) (request : ApiRequest) : Bool :=
  let presented :=
    (request.authorization.filter fun bytes => bytes.all visibleAscii).bind
      (stripPrefix (utf8Bytes "Bearer "))
  match presented with
  | some token =>
      decide (token.length = (utf8Bytes expected).length) &&
        decide (token = utf8Bytes expected)
  | none => false

/-! ## Routers -/

/-- The handlers of `admin_router`. -/
inductive AdminHandler where
  | putConfig
  | healthz
deriving DecidableEq

/-- The handlers of `proxy` that only hand on what the client asks. -/
inductive ProxyHandler where
  | deviceCode
  | deviceStatus
  | publicKey
deriving DecidableEq

/-- The handlers of `client_router`. -/
inductive ClientHandler where
  | proxy (handler : ProxyHandler)
  | postNodeState
deriving DecidableEq

/-- `admin_router`, on the address of the configuration. -/
def adminRouter : List (Route AdminHandler) := [
  ⟨.put, "/api/v1/configs/:uuid", .putConfig⟩,
  ⟨.get, "/healthz", .healthz⟩]

/-- `client_router`, on its loopback port. -/
def clientRouter : List (Route ClientHandler) := [
  ⟨.post, "/api/v1/device/code", .proxy .deviceCode⟩,
  ⟨.get, "/api/v1/device/status", .proxy .deviceStatus⟩,
  ⟨.get, "/api/v1/keys/public.pem", .proxy .publicKey⟩,
  ⟨.post, "/api/v1/nodes/:peer_id/state", .postNodeState⟩]

/-- The three ports that the gateway listens on. -/
inductive ApiPort where
  | admin
  | guard
  | client
deriving DecidableEq

/-! ## Handlers that ask the dashboard -/

/-- `forward_to_dashboard`: what is asked, and what the client is answered. -/
def forwardToDashboard (config : Config) (method : Method) (path : String)
    (query : Option String) (body : Option (List UInt8))
    (bearer : Option String) (outcome : UpstreamOutcome) :
    UpstreamRequest × Reply :=
  let url := config.dashboardBaseUrl ++ path
  let asked :=
    match query.filter fun query => !query.isEmpty with
    | some query => url ++ "?" ++ query
    | none => url
  (⟨method, asked, body, bearer⟩,
    match outcome with
    | .answered response => .relayed response
    | _ => .error .dashboardUnreachable)

/-- The path of the probe. -/
def publicHealthz : String := "/api/v1/public/healthz"

/-- The paths of the dashboard that ask for no token. -/
def publicDeviceCode : String := "/api/v1/public/device/code"

/-- The path for the state of a pairing. -/
def publicDeviceStatus : String := "/api/v1/public/device/status"

/-- The path of the public key. -/
def publicKeyPem : String := "/api/v1/public/keys/public.pem"

/-- The path of the dashboard that takes the state of a node. -/
def privateNodeState (peerId : String) : String :=
  "/api/v1/private/nodes/" ++ peerId ++ "/state"

/-- `POST /api/v1/device/code`: the body is handed on. -/
def deviceCode (config : Config) (body : List UInt8)
    (outcome : UpstreamOutcome) : UpstreamRequest × Reply :=
  forwardToDashboard config .post publicDeviceCode none (some body) none
    outcome

/-- `GET /api/v1/device/status`: the query is handed on. -/
def deviceStatus (config : Config) (query : Option String)
    (outcome : UpstreamOutcome) : UpstreamRequest × Reply :=
  forwardToDashboard config .get publicDeviceStatus query none none outcome

/-- `GET /api/v1/keys/public.pem`. -/
def publicKey (config : Config) (outcome : UpstreamOutcome) :
    UpstreamRequest × Reply :=
  forwardToDashboard config .get publicKeyPem none none none outcome

/-- The probe of the dashboard succeeded. -/
def probed (outcome : UpstreamOutcome) : Bool :=
  match outcome with
  | .unreachable => false
  | .interrupted status => 200 ≤ status && status < 300
  | .answered response => 200 ≤ response.status && response.status < 300

/-- `GET /healthz`; the probe does not read the body of the answer. -/
def healthz (config : Config) (outcome : UpstreamOutcome) :
    UpstreamRequest × Reply :=
  (⟨.get, config.dashboardBaseUrl ++ publicHealthz, none, none⟩,
    .response ⟨.ok, some (.object [
      ("status", .string "ok"),
      ("dashboard", .string (if probed outcome then "ok" else "unreachable"))])⟩)

/-- `ALLOWED_STATES`. -/
def allowedStates : List String := ["active", "inactive", "relay", "suspended"]

/-- The body that tells the dashboard the state. -/
def dashboardStateBody (state : String) : List UInt8 :=
  utf8Bytes ("\x7b\"state\":\"" ++ state ++ "\"\x7d")

section Handlers

variable (PeerId : Type) [PeerIdText PeerId]

/-- `POST /api/v1/nodes/:peer_id/state`, behind its extractors. -/
def postNodeState (config : Config) (peerId state : String)
    (outcome : UpstreamOutcome) : Except AppError (UpstreamRequest × Reply) :=
  if parsesAs PeerId peerId then
    if state ∈ allowedStates then
      match config.dashboardToken with
      | none => .error .dashboardNotConfigured
      | some token =>
          .ok (forwardToDashboard config .post (privateNodeState peerId) none
            (some (dashboardStateBody state)) (some token) outcome)
    else
      .error (.badRequest
        "state doit être l'un de [\"active\", \"inactive\", \"relay\", \"suspended\"]")
  else
    .error (.badRequest ("peer_id `" ++ peerId ++ "` invalide"))

end Handlers

/-! ## The running gateway -/

/-- A call of `put_config` that has stored its row. -/
structure PutCall (PeerId : Type) where
  saved : ConfigNodeGuard
  /-- the commands it has yet to send -/
  commands : List (GuardControl PeerId)

/-- The state of the process: the database, the calls of `put_config` under way,
the control channel, the loop and the limiters of the sensitive routes. -/
structure GatewayApi (PeerId : Type) where
  table : ConfigTable
  calls : List (PutCall PeerId)
  channel : List (GuardControl PeerId)
  guard : GuardLoop PeerId
  getConfigLimiter : WindowLimiter
  nodeStateLimiter : WindowLimiter

/-- What is fixed while the process runs: its configuration, the text of the
columns and the JSON of the bodies. -/
structure Api where
  config : Config
  serde : SerdeJson
  parse : List UInt8 → Option Json

/-- The clock, the database and the dashboard, as one request meets them. -/
structure Surroundings where
  now : UInt64
  statement : Bool
  upstream : UpstreamOutcome
deriving DecidableEq

/-- What can happen to the gateway. -/
inductive ApiEvent (PeerId : Type) where
  | request (port : ApiPort) (request : ApiRequest) (around : Surroundings)
  /-- a call of `put_config` sends its next command -/
  | send (call : Nat)
  /-- a call that has sent all its commands answers -/
  | reply (call : Nat)
  /-- the loop receives a command -/
  | receive (now : Nat)
  /-- the loop sees one of its other events -/
  | guard (event : GuardEvent PeerId)

/-- What the gateway does that can be seen outside. -/
inductive ApiAction (PeerId : Type) where
  | upstream (request : UpstreamRequest)
  | stored (config : ConfigNodeGuard)
  | answered (port : ApiPort) (reply : Reply)
  /-- the channel was closed -/
  | unsent
  | guard (action : GuardAction PeerId)

/-- One recorded step of the gateway. -/
abbrev ApiTransition (PeerId : Type) :=
  Transition (GatewayApi PeerId) (ApiEvent PeerId) (ApiAction PeerId)

/-- `SENSITIVE_ROUTE_MAX_PER_WINDOW`. -/
def sensitiveRouteMaxPerWindow : UInt32 := 120

/-- `SENSITIVE_ROUTE_WINDOW_SECS`. -/
def sensitiveRouteWindowSecs : UInt64 := 60

/-- A request that no route of the router matches. -/
def fallback : Reply :=
  .response ⟨.notFound, none⟩

/-- A request for a path whose route serves other methods. -/
def wrongMethod : Reply :=
  .response ⟨.methodNotAllowed, none⟩

section Serving

variable {PeerId : Type} [PeerIdText PeerId]

/-- `put_config`, up to the first command it sends. -/
def Api.putConfig (api : Api) (gateway : GatewayApi PeerId)
    (captures : Captures) (request : ApiRequest) (around : Surroundings) :
    GatewayApi PeerId × List (ApiAction PeerId) :=
  match extractPath captures with
  | .error rejection => (gateway, [.answered .admin (.rejected rejection)])
  | .ok uuid =>
      match extractJson api.parse ConfigNodeGuardInput.ofJson request with
      | .error rejection => (gateway, [.answered .admin (.rejected rejection)])
      | .ok input =>
          match Gateway.putConfig api.serde gateway.table uuid input
            (toString around.now) around.statement with
          | .refused error => (gateway, [.answered .admin (.error error)])
          | .panicked table =>
              ({ gateway with table := table }, [.answered .admin .dropped])
          | .saved table config messages =>
              ({ gateway with
                  table := table
                  calls := gateway.calls ++ [⟨config, messages⟩] },
                [.stored config])

/-- A request to `admin_router`. -/
def Api.admin (api : Api) (gateway : GatewayApi PeerId)
    (request : ApiRequest) (around : Surroundings) :
    GatewayApi PeerId × List (ApiAction PeerId) :=
  match routeOf adminRouter request.path with
  | none => (gateway, [.answered .admin fallback])
  | some (⟨method, _, .putConfig⟩, captures) =>
      if requireBearer api.config.adminToken request then
        if method.serves request.method then
          api.putConfig gateway captures request around
        else
          (gateway, [.answered .admin wrongMethod])
      else
        (gateway, [.answered .admin (.error .unauthorized)])
  | some (⟨method, _, .healthz⟩, _) =>
      if method.serves request.method then
        let (sent, reply) := Gateway.healthz api.config around.upstream
        (gateway, [.upstream sent, .answered .admin reply])
      else
        (gateway, [.answered .admin wrongMethod])

/-- `get_config`, behind its limiter and its extractor. -/
def Api.getConfig (api : Api) (gateway : GatewayApi PeerId) (method : Method)
    (captures : Captures) (request : ApiRequest) (around : Surroundings) :
    GatewayApi PeerId × List (ApiAction PeerId) :=
  let (limiter, allowed) := gateway.getConfigLimiter.allow around.now
  ({ gateway with getConfigLimiter := limiter },
    [.answered .guard
      (if allowed then
        if method.serves request.method then
          match extractPath captures with
          | .error rejection => .rejected rejection
          | .ok uuid =>
              .ofHandler (Gateway.getConfig PeerId api.serde gateway.table uuid
                around.statement)
        else
          wrongMethod
      else
        .error .rateLimited)])

/-- `post_node_state`, behind the shared limiter and its extractors.  The body
is read when the limiter has admitted the request, and the dashboard is asked
when the body is there; only the reading of the limiter dates the step. -/
def Api.postNodeState (api : Api) (gateway : GatewayApi PeerId)
    (port : ApiPort) (method : Method) (captures : Captures)
    (request : ApiRequest) (around : Surroundings) :
    GatewayApi PeerId × List (ApiAction PeerId) :=
  let (limiter, allowed) := gateway.nodeStateLimiter.allow around.now
  let limited := { gateway with nodeStateLimiter := limiter }
  let answer (reply : Reply) := (limited, [.answered port reply])
  if allowed then
    if method.serves request.method then
      match extractPath captures with
      | .error rejection => answer (.rejected rejection)
      | .ok peerId =>
          match extractJson api.parse setStateInputOfJson request with
          | .error rejection => answer (.rejected rejection)
          | .ok state =>
              match Gateway.postNodeState PeerId api.config peerId state
                around.upstream with
              | .error error => answer (.error error)
              | .ok (sent, reply) =>
                  (limited, [.upstream sent, .answered port reply])
    else
      answer wrongMethod
  else
    answer (.error .rateLimited)

/-- A request to `guard_router`, through the tunnel of a Guard. -/
def Api.guard (api : Api) (gateway : GatewayApi PeerId)
    (request : ApiRequest) (around : Surroundings) :
    GatewayApi PeerId × List (ApiAction PeerId) :=
  match routeOf guardRouter request.path with
  | none => (gateway, [.answered .guard fallback])
  | some (⟨method, _, .getConfig⟩, captures) =>
      api.getConfig gateway method captures request around
  | some (⟨method, _, .postNodeState⟩, captures) =>
      api.postNodeState gateway .guard method captures request around

/-- The handlers of `proxy`, behind their extractors. -/
def Api.proxy (api : Api) (request : ApiRequest) (around : Surroundings) :
    ProxyHandler → Except Rejection (UpstreamRequest × Reply)
  | .deviceCode =>
      (extractBytes request).map fun body =>
        Gateway.deviceCode api.config body around.upstream
  | .deviceStatus =>
      .ok (Gateway.deviceStatus api.config request.query around.upstream)
  | .publicKey => .ok (Gateway.publicKey api.config around.upstream)

/-- A request to `client_router`, through the tunnel of a client. -/
def Api.client (api : Api) (gateway : GatewayApi PeerId)
    (request : ApiRequest) (around : Surroundings) :
    GatewayApi PeerId × List (ApiAction PeerId) :=
  match routeOf clientRouter request.path with
  | none => (gateway, [.answered .client fallback])
  | some (⟨method, _, .postNodeState⟩, captures) =>
      api.postNodeState gateway .client method captures request around
  | some (⟨method, _, .proxy handler⟩, _) =>
      if method.serves request.method then
        match api.proxy request around handler with
        | .error rejection =>
            (gateway, [.answered .client (.rejected rejection)])
        | .ok (sent, reply) =>
            (gateway, [.upstream sent, .answered .client reply])
      else
        (gateway, [.answered .client wrongMethod])

end Serving

variable {PeerId : Type} [DecidableEq PeerId] [PeerIdentity PeerId]
    [PeerIdText PeerId]

/-- The tunnels that lead to the two inner routers. -/
def Api.registry (api : Api) : TunnelRegistry PeerId :=
  gatewayRegistry api.config.guardPort api.config.clientPort

/-- `main`, up to the loop; `now` is the reading of the clock for the
limiters. -/
def GatewayApi.boot (api : Api) (table : ConfigTable)
    (loaded : List ConfigNodeGuardRow) (now : UInt64) :
    Option (GatewayApi PeerId) :=
  let limiter :=
    WindowLimiter.new sensitiveRouteMaxPerWindow sensitiveRouteWindowSecs now
  (NuxGateway.boot api.serde api.registry table loaded).map fun gateway => {
    table := gateway.table
    calls := []
    channel := gateway.channel
    guard := gateway.guard
    getConfigLimiter := limiter
    nodeStateLimiter := limiter }

/-- One event of the running gateway: a request is served, a call of
`put_config` goes on, or the loop takes a command or another event of its. -/
def stepApi (api : Api) :
    Step (GatewayApi PeerId) (ApiEvent PeerId) (ApiAction PeerId) :=
  fun gateway event =>
    match event with
    | .request .admin request around => some (api.admin gateway request around)
    | .request .guard request around => some (api.guard gateway request around)
    | .request .client request around =>
        some (api.client gateway request around)
    | .send call =>
        match gateway.calls[call]? with
        | some ⟨saved, command :: rest⟩ =>
            let calls := gateway.calls.set call ⟨saved, rest⟩
            if gateway.guard.running ∧ gateway.guard.control then
              if gateway.channel.length < guardControlChannelCapacity then
                some ({ gateway with
                  calls := calls
                  channel := gateway.channel ++ [command] }, [])
              else
                none
            else
              some ({ gateway with calls := calls }, [.unsent])
        | _ => none
    | .reply call =>
        match gateway.calls[call]? with
        | some ⟨saved, []⟩ =>
            some ({ gateway with calls := gateway.calls.eraseIdx call },
              [.answered .admin (.response ⟨.ok, some saved.toJson⟩)])
        | _ => none
    | .receive now =>
        match gateway.channel with
        | [] => none
        | command :: rest =>
            (runGuardLoop api.registry gateway.guard
              (.control command now)).map fun result =>
                ({ gateway with channel := rest, guard := result.1 },
                  result.2.map .guard)
    | .guard event =>
        if FromChannel event then
          none
        else
          (runGuardLoop api.registry gateway.guard event).map fun result =>
            ({ gateway with guard := result.1 }, result.2.map .guard)

/-! ## A small gateway with its routers -/

namespace SmallApi

open SmallGateway

/-- A configuration with a token for the dashboard. -/
def config : Config where
  adminAddr := .v4 #v[0, 0, 0, 0] 8088
  guardPort := 9001
  clientPort := 9002
  dashboardBaseUrl := "http://dashboard"
  adminToken := "0123456789abcdef"
  dashboardToken := some "token"
  portsDiffer := by decide
  tokenLength := by decide +kernel

/-- A configuration that allows the client, and a change of state. -/
def putBody : List UInt8 :=
  utf8Bytes ("\x7b\"rate_limit\":\x7b\"max\":120,\"window_secs\":60\x7d," ++
    "\"allow\":[\x7b\"peer\":\"" ++ clientText ++ "\"\x7d]\x7d")

/-- The change of state. -/
def stateBody : List UInt8 :=
  utf8Bytes "\x7b\"state\":\"active\"\x7d"

/-- The JSON of the two bodies. -/
def parse (bytes : List UInt8) : Option Json :=
  if bytes = putBody then
    some (.object [
      ("rate_limit", .object [("max", .number 120),
        ("window_secs", .number 60)]),
      ("allow", .array [.object [("peer", .string clientText)]])])
  else if bytes = stateBody then
    some (.object [("state", .string "active")])
  else
    none

/-- That configuration, on the small columns and bodies. -/
def api : Api where
  config := config
  serde := serde
  parse := parse

/-- The gateway as it starts on an empty table. -/
def start : GatewayApi BytePeer where
  table := emptyTable
  calls := []
  channel := []
  guard := GuardLoop.start (GuardAuthenticator.new Whitelist.new) api.registry
    true {} []
  getConfigLimiter := .new 120 60 0
  nodeStateLimiter := .new 120 60 0

theorem start_booted : GatewayApi.boot api emptyTable [] 0 = some start :=
  rfl

/-- The configuration is put under this header. -/
def put (authorization : List UInt8) : ApiEvent BytePeer :=
  .request .admin
    ⟨.put, "/api/v1/configs/" ++ guardText, none, some authorization, true,
      putBody⟩
    ⟨0, true, .unreachable⟩

/-- The Guard asks for its configuration. -/
def get : ApiEvent BytePeer :=
  .request .guard
    ⟨.get, "/api/v1/configs/" ++ guardText, none, none, false, []⟩
    ⟨0, true, .unreachable⟩

/-- A client changes the state of the Guard. -/
def relay : ApiEvent BytePeer :=
  .request .client
    ⟨.post, "/api/v1/nodes/" ++ guardText ++ "/state", none, none, true,
      stateBody⟩
    ⟨0, true, .answered ⟨200, none, []⟩⟩

/-- The call of `put`, and the loop consuming its two commands. -/
def pushed : List (ApiEvent BytePeer) :=
  [.send 0, .send 0, .reply 0, .receive 0, .receive 0]

end SmallApi

end NuxAuth.Gateway
