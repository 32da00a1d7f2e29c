import NuxAuth.Gateway.Api

/-!
# What one step of the gateway can do

`ApiStep` lists the steps of `stepApi` by their effect: a request that only
gets an answer, one that is counted by a limiter, a `put_config` that writes,
and what the calls and the loop do between requests.  Every fact about runs of
the gateway is proved by cases on it.

What is asked of the dashboard is listed on the way: the public requests, whose
paths are written in the source, and the private one.
-/

namespace NuxAuth.Gateway

open NuxAuth.Core
open NuxAuth.Lib.Bincode NuxAuth.Lib.PathRouting NuxAuth.Lib.RecordedRun

/-! ## The admin token -/

theorem stripPrefix_eq_some_iff {front bytes rest : List UInt8} :
    stripPrefix front bytes = some rest ↔ bytes = front ++ rest := by
  rw [stripPrefix]
  constructor
  · intro stripped
    rcases Option.ite_none_right_eq_some.mp stripped with ⟨same, left⟩
    cases left
    have whole := List.take_append_drop front.length bytes
    rw [same] at whole
    exact whole.symm
  · rintro rfl
    simp

theorem utf8Bytes_append (front back : String) :
    utf8Bytes (front ++ back) = utf8Bytes front ++ utf8Bytes back := by
  simp [utf8Bytes]

/-- The header that `require_bearer` waits for. -/
def bearerHeader (token : String) : List UInt8 :=
  utf8Bytes ("Bearer " ++ token)

/-- Every byte of the token may stand in a header that is read as text. -/
def TokenVisible (token : String) : Prop :=
  ∀ byte ∈ utf8Bytes token, visibleAscii byte = true

instance (token : String) : Decidable (TokenVisible token) :=
  inferInstanceAs (Decidable (∀ byte ∈ utf8Bytes token, _))

theorem requireBearer_iff (token : String) (request : ApiRequest) :
    requireBearer token request = true ↔
      request.authorization = some (bearerHeader token) ∧
        TokenVisible token := by
  have scheme : (utf8Bytes "Bearer ").all visibleAscii = true := by
    decide +kernel
  constructor
  · intro accepted
    unfold requireBearer at accepted
    dsimp only at accepted
    split at accepted
    · rename_i rest presented
      rcases Option.bind_eq_some_iff.mp presented with ⟨bytes, read, stripped⟩
      rcases Option.filter_eq_some_iff.mp read with ⟨header, visible⟩
      rw [stripPrefix_eq_some_iff] at stripped
      simp only [Bool.and_eq_true, decide_eq_true_eq] at accepted
      rcases accepted with ⟨-, rfl⟩
      subst stripped
      refine ⟨by rw [header, bearerHeader, utf8Bytes_append], ?_⟩
      intro byte member
      exact List.all_eq_true.mp visible byte (List.mem_append_right _ member)
    · cases accepted
  · rintro ⟨header, visible⟩
    have text : (bearerHeader token).all visibleAscii = true := by
      rw [bearerHeader, utf8Bytes_append, List.all_append, scheme,
        Bool.true_and, List.all_eq_true]
      exact visible
    have stripped : stripPrefix (utf8Bytes "Bearer ") (bearerHeader token) =
        some (utf8Bytes token) := by
      rw [stripPrefix_eq_some_iff, bearerHeader, utf8Bytes_append]
    unfold requireBearer
    simp [header, Option.filter_some, text, stripped]

/-! ## What is asked of the dashboard -/

/-- Requests for the public paths: no token, and of the client's request only
the body or the query. -/
inductive PublicRequest (api : Api) (request : ApiRequest) :
    ApiPort → UpstreamRequest → Prop where
  | healthz :
      PublicRequest api request .admin
        ⟨.get, api.config.dashboardBaseUrl ++ publicHealthz, none, none⟩
  | deviceCode (small : request.body.length ≤ maxBodyBytes) :
      PublicRequest api request .client
        ⟨.post, api.config.dashboardBaseUrl ++ publicDeviceCode,
          some request.body, none⟩
  | deviceStatus (noQuery : ∀ query, request.query = some query → query = "") :
      PublicRequest api request .client
        ⟨.get, api.config.dashboardBaseUrl ++ publicDeviceStatus, none, none⟩
  | deviceStatusOf {query : String} (asked : request.query = some query) :
      PublicRequest api request .client
        ⟨.get, api.config.dashboardBaseUrl ++ publicDeviceStatus ++ "?" ++
          query, none, none⟩
  | publicKey :
      PublicRequest api request .client
        ⟨.get, api.config.dashboardBaseUrl ++ publicKeyPem, none, none⟩

/-- The one request that carries the token of the dashboard. -/
inductive PrivateRequest (PeerId : Type) [PeerIdText PeerId] (api : Api)
    (peerId : String) : UpstreamRequest → Prop where
  | nodeState {state token : String}
      (parses : parsesAs PeerId peerId = true)
      (allowed : state ∈ allowedStates)
      (configured : api.config.dashboardToken = some token) :
      PrivateRequest PeerId api peerId
        ⟨.post, api.config.dashboardBaseUrl ++ privateNodeState peerId,
          some (dashboardStateBody state), some token⟩

/-! ## Which requests a limiter counts -/

/-- The two limiters, by the routes behind them. -/
inductive Limited where
  | getConfig
  | nodeState
deriving DecidableEq

/-- Every route of the Guards has a limiter. -/
def GuardHandler.limited : GuardHandler → Limited
  | .getConfig => .getConfig
  | .postNodeState => .nodeState

/-- Of the routes of the clients one has. -/
def ClientHandler.limited : ClientHandler → Option Limited
  | .proxy _ => none
  | .postNodeState => some .nodeState

/-- The limiter in front of the route that the request matches. -/
def limitedBy (port : ApiPort) (request : ApiRequest) : Option Limited :=
  match port with
  | .admin => none
  | .guard => (routeOf guardRouter request.path).map fun found =>
      found.1.handler.limited
  | .client => (routeOf clientRouter request.path).bind fun found =>
      found.1.handler.limited

/-- The limiter of the routes. -/
def GatewayApi.limiter {PeerId : Type} (gateway : GatewayApi PeerId) :
    Limited → WindowLimiter
  | .getConfig => gateway.getConfigLimiter
  | .nodeState => gateway.nodeStateLimiter

/-! ## The steps -/

variable {PeerId : Type} [DecidableEq PeerId] [PeerIdentity PeerId]
    [PeerIdText PeerId]

/-- Who may write: a request to `put_config` that carries the token. -/
structure Authorized (api : Api) (request : ApiRequest) : Prop where
  token : request.authorization = some (bearerHeader api.config.adminToken)
  visible : TokenVisible api.config.adminToken
  method : request.method = .put

/-- The steps of the gateway, each with its guard and its effect. -/
inductive ApiStep (api : Api) (gateway : GatewayApi PeerId) :
    ApiEvent PeerId → GatewayApi PeerId → List (ApiAction PeerId) →
      Prop where
  | answered {port : ApiPort} {request : ApiRequest} {around : Surroundings}
      {sent : List UpstreamRequest} {reply : Reply}
      (asked : ∀ upstream ∈ sent, PublicRequest api request port upstream)
      (unmatched : port = .guard → reply = fallback)
      (unlimited : limitedBy port request = none) :
      ApiStep api gateway (.request port request around) gateway
        (sent.map .upstream ++ [.answered port reply])
  | configRead {request : ApiRequest} {around : Surroundings} {reply : Reply}
      (limited : limitedBy .guard request = some .getConfig)
      (refused : (gateway.getConfigLimiter.allow around.now).2 = false →
        reply = .error .rateLimited) :
      ApiStep api gateway (.request .guard request around)
        { gateway with getConfigLimiter :=
          (gateway.getConfigLimiter.allow around.now).1 }
        [.answered .guard reply]
  | stateRelayed {port : ApiPort} {request : ApiRequest}
      {around : Surroundings} {captures : Captures}
      {sent : List UpstreamRequest} {reply : Reply}
      (limited : limitedBy port request = some .nodeState)
      (once : sent.length ≤ 1)
      (asked : ∀ upstream ∈ sent, ∃ peerId,
        extractPath captures = .ok peerId ∧
          (gateway.nodeStateLimiter.allow around.now).2 = true ∧
            PrivateRequest PeerId api peerId upstream)
      (matched : matchSegments (pattern "/api/v1/nodes/:peer_id/state")
        (segments request.path.toList) = some captures) :
      ApiStep api gateway (.request port request around)
        { gateway with nodeStateLimiter :=
          (gateway.nodeStateLimiter.allow around.now).1 }
        (sent.map .upstream ++ [.answered port reply])
  | panicked {request : ApiRequest} {around : Surroundings} {uuid : String}
      {input : ConfigNodeGuardInput} {table : ConfigTable}
      (authorized : Authorized api request)
      (put : (putConfig api.serde gateway.table uuid input
        (toString around.now) around.statement : PutResult PeerId) =
          .panicked table) :
      ApiStep api gateway (.request .admin request around)
        { gateway with table := table } [.answered .admin .dropped]
  | stored {request : ApiRequest} {around : Surroundings} {uuid : String}
      {input : ConfigNodeGuardInput} {table : ConfigTable}
      {config : ConfigNodeGuard} {messages : List (GuardControl PeerId)}
      (authorized : Authorized api request)
      (put : (putConfig api.serde gateway.table uuid input
        (toString around.now) around.statement : PutResult PeerId) =
          .saved table config messages) :
      ApiStep api gateway (.request .admin request around)
        { gateway with
          table := table
          calls := gateway.calls ++ [⟨config, messages⟩] }
        [.stored config]
  | sent {call : Nat} {saved : ConfigNodeGuard}
      {command : GuardControl PeerId} {rest : List (GuardControl PeerId)}
      (waiting : gateway.calls[call]? = some ⟨saved, command :: rest⟩)
      (listening : gateway.guard.running = true ∧
        gateway.guard.control = true)
      (room : gateway.channel.length < guardControlChannelCapacity) :
      ApiStep api gateway (.send call)
        { gateway with
          calls := gateway.calls.set call ⟨saved, rest⟩
          channel := gateway.channel ++ [command] } []
  | unsent {call : Nat} {saved : ConfigNodeGuard}
      {command : GuardControl PeerId} {rest : List (GuardControl PeerId)}
      (waiting : gateway.calls[call]? = some ⟨saved, command :: rest⟩)
      (deaf : ¬ (gateway.guard.running = true ∧
        gateway.guard.control = true)) :
      ApiStep api gateway (.send call)
        { gateway with calls := gateway.calls.set call ⟨saved, rest⟩ }
        [.unsent]
  | replied {call : Nat} {saved : ConfigNodeGuard}
      (done : gateway.calls[call]? = some ⟨saved, []⟩) :
      ApiStep api gateway (.reply call)
        { gateway with calls := gateway.calls.eraseIdx call }
        [.answered .admin (.response ⟨.ok, some saved.toJson⟩)]
  | received {now : Nat} {command : GuardControl PeerId}
      {rest : List (GuardControl PeerId)} {guard : GuardLoop PeerId}
      {actions : List (GuardAction PeerId)}
      (queued : gateway.channel = command :: rest)
      (step : GuardStep api.registry gateway.guard (.control command now)
        guard actions) :
      ApiStep api gateway (.receive now)
        { gateway with channel := rest, guard := guard }
        (actions.map .guard)
  | guarded {event : GuardEvent PeerId} {guard : GuardLoop PeerId}
      {actions : List (GuardAction PeerId)}
      (other : FromChannel event = false)
      (step : GuardStep api.registry gateway.guard event guard actions) :
      ApiStep api gateway (.guard event) { gateway with guard := guard }
        (actions.map .guard)

section Inversion

variable {api : Api} {gateway next : GatewayApi PeerId}
    {request : ApiRequest} {around : Surroundings}
    {actions : List (ApiAction PeerId)}

/-- An answer without a question to the dashboard. -/
private theorem answered_alone (port : ApiPort) (reply : Reply)
    (unmatched : port = .guard → reply = fallback)
    (unlimited : limitedBy port request = none) :
    ApiStep api gateway (.request port request around) gateway
      [.answered port reply] :=
  have none : ∀ upstream ∈ ([] : List UpstreamRequest),
      PublicRequest api request port upstream := by simp
  .answered none unmatched unlimited

private theorem answered_admin (reply : Reply) :
    ApiStep api gateway (.request .admin request around) gateway
      [.answered .admin reply] :=
  answered_alone .admin reply (fun same => by cases same) rfl

private theorem putConfig_step {captures : Captures}
    (authorized : Authorized api request)
    (taken : api.putConfig gateway captures request around =
      (next, actions)) :
    ApiStep api gateway (.request .admin request around) next actions := by
  unfold Api.putConfig at taken
  split at taken
  · cases taken
    exact answered_admin _
  · split at taken
    · cases taken
      exact answered_admin _
    · split at taken
      · cases taken
        exact answered_admin _
      · rename_i put
        cases taken
        exact .panicked authorized put
      · rename_i put
        cases taken
        exact .stored authorized put

private theorem admin_step
    (taken : api.admin gateway request around = (next, actions)) :
    ApiStep api gateway (.request .admin request around) next actions := by
  unfold Api.admin at taken
  split at taken
  · cases taken
    exact answered_admin _
  · rename_i method path captures routed
    split at taken
    · rename_i accepted
      rcases (requireBearer_iff _ _).mp accepted with ⟨token, visible⟩
      split at taken
      · rename_i same
        have put : method = .put := by
          rcases routeOf_mem routed with ⟨member, -⟩
          simp only [adminRouter, List.mem_cons, List.not_mem_nil, or_false,
            Route.mk.injEq, reduceCtorEq, and_false] at member
          exact member.1
        rw [put, Method.serves_iff] at same
        have asked : request.method = .put :=
          same.resolve_right fun ofGet => by cases ofGet.1
        exact putConfig_step ⟨token, visible, asked⟩ taken
      · cases taken
        exact answered_admin _
    · cases taken
      exact answered_admin _
  · split at taken
    · cases taken
      have asked : ∀ upstream ∈ [(healthz api.config around.upstream).1],
          PublicRequest api request .admin upstream := by
        intro upstream member
        rw [List.mem_singleton.mp member]
        exact .healthz
      exact .answered asked (fun same => by cases same) rfl
    · cases taken
      exact answered_admin _

private theorem getConfig_step {method : Method} {captures : Captures}
    (limited : limitedBy .guard request = some .getConfig)
    (taken : api.getConfig gateway method captures request around =
      (next, actions)) :
    ApiStep api gateway (.request .guard request around) next actions := by
  cases taken
  refine .configRead limited fun refused => if_neg ?_
  change ¬ (gateway.getConfigLimiter.allow around.now).2 = true
  rw [refused]
  exact Bool.false_ne_true

omit [DecidableEq PeerId] [PeerIdentity PeerId] in
/-- What `post_node_state` sends, if it sends anything. -/
private theorem postNodeState_asks {peerId state : String}
    {outcome : UpstreamOutcome} {sent : UpstreamRequest} {reply : Reply}
    (asked : postNodeState PeerId api.config peerId state outcome =
      .ok (sent, reply)) :
    PrivateRequest PeerId api peerId sent := by
  unfold postNodeState at asked
  split at asked
  · rename_i parses
    split at asked
    · rename_i allowed
      split at asked
      · cases asked
      · rename_i token configured
        cases asked
        exact .nodeState parses allowed configured
    · cases asked
  · cases asked

private theorem postNodeState_step {port : ApiPort} {method : Method}
    {captures : Captures}
    (limited : limitedBy port request = some .nodeState)
    (matched : matchSegments (pattern "/api/v1/nodes/:peer_id/state")
      (segments request.path.toList) = some captures)
    (taken : api.postNodeState gateway port method captures request around =
      (next, actions)) :
    ApiStep api gateway (.request port request around) next actions := by
  have silent : ∀ reply : Reply,
      ApiStep api gateway (.request port request around)
        { gateway with nodeStateLimiter :=
          (gateway.nodeStateLimiter.allow around.now).1 }
        [.answered port reply] := by
    intro reply
    have none : ∀ upstream ∈ ([] : List UpstreamRequest), ∃ peerId,
        extractPath captures = .ok peerId ∧
          (gateway.nodeStateLimiter.allow around.now).2 = true ∧
            PrivateRequest PeerId api peerId upstream := by simp
    have few : ([] : List UpstreamRequest).length ≤ 1 := Nat.zero_le 1
    exact .stateRelayed limited few none matched
  unfold Api.postNodeState at taken
  dsimp only at taken
  split at taken
  · rename_i admitted
    split at taken
    · split at taken
      · cases taken
        exact silent _
      · rename_i peerId named
        split at taken
        · cases taken
          exact silent _
        · split at taken
          · cases taken
            exact silent _
          · rename_i sent reply asked
            cases taken
            have upstream : ∀ upstream ∈ [sent], ∃ peerId,
                extractPath captures = .ok peerId ∧
                  (gateway.nodeStateLimiter.allow around.now).2 = true ∧
                    PrivateRequest PeerId api peerId upstream := by
              intro upstream member
              rw [List.mem_singleton.mp member]
              exact ⟨peerId, named, admitted, postNodeState_asks asked⟩
            have once : [sent].length ≤ 1 := Nat.le_refl 1
            exact .stateRelayed limited once upstream matched
    · cases taken
      exact silent _
  · cases taken
    exact silent _

private theorem guard_step
    (taken : api.guard gateway request around = (next, actions)) :
    ApiStep api gateway (.request .guard request around) next actions := by
  unfold Api.guard at taken
  split at taken
  · rename_i unrouted
    cases taken
    have unlimited : limitedBy .guard request = none := by
      rw [limitedBy, unrouted]
      rfl
    exact answered_alone .guard _ (fun _ => rfl) unlimited
  · rename_i routed
    have limited : limitedBy .guard request = some .getConfig := by
      rw [limitedBy, routed]
      rfl
    exact getConfig_step limited taken
  · rename_i method path captures routed
    rcases routeOf_mem routed with ⟨member, matched⟩
    simp only [guardRouter, List.mem_cons, List.not_mem_nil, or_false,
      Route.mk.injEq, reduceCtorEq, and_false, false_or] at member
    rw [member.2.1] at matched
    have limited : limitedBy .guard request = some .nodeState := by
      rw [limitedBy, routed]
      rfl
    exact postNodeState_step limited matched taken

theorem proxy_asks {handler : ProxyHandler} {sent : UpstreamRequest}
    {reply : Reply}
    (asked : api.proxy request around handler = .ok (sent, reply)) :
    PublicRequest api request .client sent := by
  cases handler with
  | deviceCode =>
      simp only [Api.proxy, extractBytes] at asked
      split at asked
      · cases asked
      · rename_i small
        cases asked
        exact .deviceCode (Nat.le_of_not_lt small)
  | deviceStatus =>
      simp only [Api.proxy, deviceStatus, forwardToDashboard,
        Except.ok.injEq, Prod.mk.injEq] at asked
      rcases asked with ⟨rfl, -⟩
      split
      · rename_i query given
        exact .deviceStatusOf (Option.filter_eq_some_iff.mp given).1
      · rename_i none
        refine .deviceStatus ?_
        intro query given
        rw [given, Option.filter_eq_none_iff] at none
        simpa using none query rfl
  | publicKey =>
      cases asked
      exact .publicKey

private theorem client_step
    (taken : api.client gateway request around = (next, actions)) :
    ApiStep api gateway (.request .client request around) next actions := by
  have alone : ∀ reply : Reply, limitedBy .client request = none →
      ApiStep api gateway (.request .client request around) gateway
        [.answered .client reply] :=
    fun reply => answered_alone .client reply fun same => by cases same
  unfold Api.client at taken
  split at taken
  · rename_i unrouted
    cases taken
    refine alone _ ?_
    rw [limitedBy, unrouted]
    rfl
  · rename_i method path captures routed
    rcases routeOf_mem routed with ⟨member, matched⟩
    simp only [clientRouter, List.mem_cons, List.not_mem_nil, or_false,
      Route.mk.injEq, reduceCtorEq, and_false, false_or] at member
    rw [member.2.1] at matched
    have limited : limitedBy .client request = some .nodeState := by
      rw [limitedBy, routed]
      rfl
    exact postNodeState_step limited matched taken
  · rename_i routed
    have unlimited : limitedBy .client request = none := by
      rw [limitedBy, routed]
      rfl
    split at taken
    · split at taken
      · cases taken
        exact alone _ unlimited
      · rename_i sent reply asked
        cases taken
        have upstream : ∀ upstream ∈ [sent],
            PublicRequest api request .client upstream := by
          intro upstream member
          rw [List.mem_singleton.mp member]
          exact proxy_asks asked
        exact .answered upstream (fun same => by cases same) unlimited
    · cases taken
      exact alone _ unlimited

theorem stepApi_step {event : ApiEvent PeerId}
    (taken : stepApi api gateway event = some (next, actions)) :
    ApiStep api gateway event next actions := by
  cases event with
  | request port request around =>
      cases port with
      | admin => exact admin_step (Option.some.inj taken)
      | guard => exact guard_step (Option.some.inj taken)
      | client => exact client_step (Option.some.inj taken)
  | send call =>
      simp only [stepApi] at taken
      split at taken
      · rename_i saved command rest waiting
        split at taken
        · rename_i listening
          rcases Option.ite_none_right_eq_some.mp taken with ⟨room, same⟩
          cases same
          exact .sent waiting listening room
        · rename_i deaf
          cases taken
          exact .unsent waiting deaf
      · cases taken
  | reply call =>
      simp only [stepApi] at taken
      split at taken
      · rename_i saved done
        cases taken
        exact .replied done
      · cases taken
  | receive now =>
      simp only [stepApi] at taken
      split at taken
      · cases taken
      · rename_i command rest queued
        rcases Option.map_eq_some_iff.mp taken with ⟨⟨guard, log⟩, ran, same⟩
        cases same
        exact .received queued (runGuardLoop_step ran)
  | guard event =>
      rcases Option.ite_none_left_eq_some.mp taken with ⟨other, handled⟩
      rcases Option.map_eq_some_iff.mp handled with ⟨⟨guard, log⟩, ran, same⟩
      cases same
      exact .guarded (Bool.eq_false_iff.mpr other) (runGuardLoop_step ran)

end Inversion

end NuxAuth.Gateway
