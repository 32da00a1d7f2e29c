import NuxAuth.Lib.Checked
import NuxAuth.Gateway.ApiStep

/-!
# Access traces back to the admin token

A peer is let through to one of the loopback ports by a role, the roles come
from the whitelist, and the whitelist is fed by the rows that were loaded and
by the calls of `put_config`.  So each connection to a port answers to a
configuration, and each configuration that was not there at the start was
brought by a request with the admin token.

The token itself is compared as text: one that `from_env` accepts and that no
header can carry locks the table for good.
-/

namespace NuxAuth.Gateway

open NuxAuth.Core
open NuxAuth.Lib.Bincode NuxAuth.Lib.Checked NuxAuth.Lib.FiniteTable
open NuxAuth.Lib.LastWrite NuxAuth.Lib.PathRouting NuxAuth.Lib.RecordedRun

variable {PeerId : Type} [DecidableEq PeerId] [PeerIdentity PeerId]
    [PeerIdText PeerId]

/-! ## Configurations and the roles they give -/

/-- Some configuration gives these roles to the peer. -/
def GivenBy (configs : ConfigNodeGuard → Prop) (peer : PeerId)
    (roles : List String) : Prop :=
  ∃ config, configs config ∧ (peer, roles) ∈ rolesForConfig config

omit [DecidableEq PeerId] [PeerIdentity PeerId] in
/-- The roles a configuration gives say how it names the peer. -/
theorem mem_rolesForConfig_iff {config : ConfigNodeGuard} {peer : PeerId}
    {roles : List String} :
    (peer, roles) ∈ rolesForConfig config ↔
      (Owns config peer ∧ roles = [roleGuard, roleClient]) ∨
        (Lists config peer ∧ roles = [roleClient]) := by
  have clients : (peer, roles) ∈ (config.allow.filterMap fun entry =>
        (PeerIdText.fromStr entry.peer).map fun listed : PeerId =>
          (listed, [roleClient])) ↔
      Lists config peer ∧ roles = [roleClient] := by
    simp only [List.mem_filterMap, Option.map_eq_some_iff, Prod.mk.injEq,
      Lists]
    constructor
    · rintro ⟨entry, member, listed, parsed, rfl, rfl⟩
      exact ⟨⟨entry, member, parsed⟩, rfl⟩
    · rintro ⟨⟨entry, member, parsed⟩, rfl⟩
      exact ⟨entry, member, peer, parsed, rfl, rfl⟩
  rw [rolesForConfig, List.mem_append, clients]
  refine or_congr_left ?_
  cases parsed : (PeerIdText.fromStr config.uuid : Option PeerId) with
  | none => simp [Owns, parsed]
  | some owner =>
      simp only [Owns, parsed, List.mem_singleton, Prod.mk.injEq,
        Option.some.injEq]
      exact and_congr_left fun _ => eq_comm

/-- The configuration was loaded at the start, or stored on a request that
carried the admin token. -/
def Provided (api : Api) (loaded : List ConfigNodeGuardRow)
    (trace : List (ApiTransition PeerId)) (config : ConfigNodeGuard) : Prop :=
  config ∈ configsOf api.serde loaded ∨
    ∃ transition ∈ trace, ∃ request around,
      transition.event = .request .admin request around ∧
        Authorized api request ∧ .stored config ∈ transition.actions

omit [DecidableEq PeerId] [PeerIdentity PeerId] [PeerIdText PeerId] in
theorem Provided.later {api : Api} {loaded : List ConfigNodeGuardRow}
    {trace : List (ApiTransition PeerId)} {config : ConfigNodeGuard}
    (provided : Provided api loaded trace config)
    (last : ApiTransition PeerId) :
    Provided api loaded (trace ++ [last]) config := by
  rcases provided with stored | ⟨transition, member, request, around, here⟩
  · exact Or.inl stored
  · exact Or.inr ⟨transition, List.mem_append_left _ member, request, around,
      here⟩

/-! ## What every run preserves -/

/-- The command gives a peer roles that some configuration gives it. -/
def Gives (configs : ConfigNodeGuard → Prop)
    (command : GuardControl PeerId) : Prop :=
  ∃ peer roles, command = .allow peer roles ∧ GivenBy configs peer roles

/-- All roles in the gateway, and on their way to the loop, are given by the
configurations. -/
structure Traced (configs : ConfigNodeGuard → Prop)
    (gateway : GatewayApi PeerId) : Prop where
  sending : ∀ call ∈ gateway.calls, ∀ command ∈ call.commands,
    Gives configs command
  queued : ∀ command ∈ gateway.channel, Gives configs command
  roles : RolesObey (GivenBy configs) gateway.guard

section Steps

variable {configs more : ConfigNodeGuard → Prop} {api : Api}
    {gateway next : GatewayApi PeerId} {event : ApiEvent PeerId}
    {actions : List (ApiAction PeerId)}

omit [DecidableEq PeerId] [PeerIdentity PeerId] in
theorem GivenBy.mono {peer : PeerId} {roles : List String}
    (given : GivenBy configs peer roles)
    (included : ∀ config, configs config → more config) :
    GivenBy more peer roles := by
  rcases given with ⟨config, here, entry⟩
  exact ⟨config, included config here, entry⟩

omit [DecidableEq PeerId] [PeerIdentity PeerId] in
theorem Gives.mono {command : GuardControl PeerId}
    (gives : Gives configs command)
    (included : ∀ config, configs config → more config) :
    Gives more command := by
  rcases gives with ⟨peer, roles, rfl, given⟩
  exact ⟨peer, roles, rfl, given.mono included⟩

omit [DecidableEq PeerId] in
theorem Traced.mono (traced : Traced configs gateway)
    (included : ∀ config, configs config → more config) :
    Traced more gateway where
  sending call member command waiting :=
    (traced.sending call member command waiting).mono included
  queued command waiting := (traced.queued command waiting).mono included
  roles := traced.roles.mono fun _ _ given => given.mono included

omit [DecidableEq PeerId] [PeerIdentity PeerId] in
/-- The row that a call stores reads as the configuration it answers with, and
its commands come from that configuration. -/
theorem putConfig_saved {serde : SerdeJson} {table stored : ConfigTable}
    {uuid updatedAt : String} {input : ConfigNodeGuardInput} {written : Bool}
    {config : ConfigNodeGuard} {messages : List (GuardControl PeerId)}
    (put : putConfig serde table uuid input updatedAt written =
      .saved stored config messages) :
    (∃ row, stored = table.upsert row ∧
        ConfigNodeGuard.ofRow serde row = some config ∧ row.uuid = uuid) ∧
      messages = (rolesForConfig config).map fun entry =>
        .allow entry.1 entry.2 := by
  unfold putConfig at put
  split at put
  · split at put
    · cases put
    · split at put
      · dsimp only at put
        split at put
        · cases put
        · rename_i read
          cases put
          exact ⟨⟨_, rfl, read, rfl⟩, rfl⟩
      · cases put
  · cases put

omit [DecidableEq PeerId] in
/-- Of a call that is already running, the commands it had left. -/
theorem Traced.sendingSet (traced : Traced configs gateway) {call : Nat}
    {saved : ConfigNodeGuard} {command : GuardControl PeerId}
    {rest : List (GuardControl PeerId)}
    (waiting : gateway.calls[call]? = some ⟨saved, command :: rest⟩) :
    Gives configs command ∧
      ∀ other ∈ gateway.calls.set call ⟨saved, rest⟩,
        ∀ later ∈ other.commands, Gives configs later := by
  have here := traced.sending _ (List.mem_of_getElem? waiting)
  refine ⟨here command List.mem_cons_self, ?_⟩
  intro other member later inside
  rcases List.mem_or_eq_of_mem_set member with old | rfl
  · exact traced.sending other old later inside
  · exact here later (List.mem_cons_of_mem _ inside)

theorem Traced.step (traced : Traced configs gateway)
    (step : ApiStep api gateway event next actions)
    (stores : ∀ config, .stored config ∈ actions → configs config) :
    Traced configs next := by
  cases step with
  | answered => exact traced
  | configRead =>
      exact ⟨traced.sending, traced.queued, traced.roles⟩
  | stateRelayed =>
      exact ⟨traced.sending, traced.queued, traced.roles⟩
  | panicked =>
      exact ⟨traced.sending, traced.queued, traced.roles⟩
  | stored authorized put =>
      rename_i request around uuid input table config messages
      refine ⟨?_, traced.queued, traced.roles⟩
      intro call member command waiting
      rcases List.mem_append.mp member with old | new
      · exact traced.sending call old command waiting
      · rw [List.mem_singleton.mp new, (putConfig_saved put).2] at waiting
        rcases List.mem_map.mp waiting with ⟨entry, given, rfl⟩
        exact ⟨entry.1, entry.2, rfl, config,
          stores config List.mem_cons_self, given⟩
  | sent waiting listening room =>
      rcases traced.sendingSet waiting with ⟨here, others⟩
      refine ⟨others, ?_, traced.roles⟩
      intro command member
      rcases List.mem_append.mp member with old | new
      · exact traced.queued command old
      · rw [List.mem_singleton.mp new]
        exact here
  | unsent waiting deaf =>
      exact ⟨(traced.sendingSet waiting).2, traced.queued, traced.roles⟩
  | replied done =>
      refine ⟨?_, traced.queued, traced.roles⟩
      intro call member
      exact traced.sending call (List.mem_of_mem_eraseIdx member)
  | received queued step =>
      have given := traced.queued _ (queued ▸ List.mem_cons_self)
      refine ⟨traced.sending, ?_, ?_⟩
      · intro command member
        exact traced.queued command (queued ▸ List.mem_cons_of_mem _ member)
      · refine traced.roles.step step ?_
        rcases given with ⟨peer, roles, rfl, given⟩
        exact given
  | guarded other step =>
      refine ⟨traced.sending, traced.queued, traced.roles.step step ?_⟩
      rename_i event guard actions
      cases event with
      | control command now => cases other
      | _ => trivial

/-- A stored configuration was brought by an authorized request. -/
theorem ApiStep.stored_authorized
    (step : ApiStep api gateway event next actions)
    {config : ConfigNodeGuard} (stored : .stored config ∈ actions) :
    ∃ request around, event = .request .admin request around ∧
      Authorized api request := by
  cases step with
  | stored authorized put => exact ⟨_, _, rfl, authorized⟩
  | _ => simp at stored

end Steps

/-! ## Connections to the ports -/

omit [DecidableEq PeerId] [PeerIdentity PeerId] [PeerIdText PeerId] in
/-- The two ports, and the roles they ask for. -/
theorem gatewayRegistry_get {guardPort clientPort : UInt16} {service : String}
    {exposed : ExposedService}
    (registered : (gatewayRegistry guardPort clientPort :
      TunnelRegistry PeerId).get service = some exposed) :
    exposed = ⟨.loopback guardPort, some roleGuard⟩ ∨
      exposed = ⟨.loopback clientPort, some roleClient⟩ := by
  simp only [gatewayRegistry, TunnelRegistry.get, TunnelRegistry.expose,
    lookup_insert_eq_ite] at registered
  split at registered
  · cases registered
    exact Or.inr rfl
  · split at registered
    · cases registered
      exact Or.inl rfl
    · cases registered

omit [DecidableEq PeerId] [PeerIdentity PeerId] in
/-- Who holds the role of a Guard is the owner of a configuration. -/
theorem GivenBy.owner {configs : ConfigNodeGuard → Prop} {peer : PeerId}
    {roles : List String} (given : GivenBy configs peer roles)
    (held : roleGuard ∈ roles) :
    ∃ config, configs config ∧ Owns config peer := by
  rcases given with ⟨config, here, entry⟩
  rcases mem_rolesForConfig_iff.mp entry with ⟨owns, -⟩ | ⟨-, rfl⟩
  · exact ⟨config, here, owns⟩
  · exact absurd held (by decide)

omit [DecidableEq PeerId] [PeerIdentity PeerId] in
theorem GivenBy.named {configs : ConfigNodeGuard → Prop} {peer : PeerId}
    {roles : List String} (given : GivenBy configs peer roles) :
    ∃ config, configs config ∧ Names config peer := by
  rcases given with ⟨config, here, entry⟩
  rcases mem_rolesForConfig_iff.mp entry with ⟨owns, -⟩ | ⟨listed, -⟩
  · exact ⟨config, here, Or.inl owns⟩
  · exact ⟨config, here, Or.inr listed⟩

/-- The peer may reach the port: its owner that of the Guards, whoever it names
that of the clients. -/
inductive MayReach (api : Api) (configs : ConfigNodeGuard → Prop)
    (peer : PeerId) : SocketAddr → Prop where
  | guardPort {config : ConfigNodeGuard} (given : configs config)
      (owns : Owns config peer) :
      MayReach api configs peer (.loopback api.config.guardPort)
  | clientPort {config : ConfigNodeGuard} (given : configs config)
      (named : Names config peer) :
      MayReach api configs peer (.loopback api.config.clientPort)

theorem Traced.connects {configs : ConfigNodeGuard → Prop} {api : Api}
    {gateway next : GatewayApi PeerId} {event : ApiEvent PeerId}
    {actions : List (ApiAction PeerId)} (traced : Traced configs gateway)
    (step : ApiStep api gateway event next actions) {id : Nat}
    {peer : PeerId} {service : String} {target : SocketAddr}
    (connected : .guard (.served id peer (.connect service target)) ∈
      actions) :
    MayReach api configs peer target := by
  have reached : ∀ {event : GuardEvent PeerId} {guard : GuardLoop PeerId}
      {log : List (GuardAction PeerId)},
      GuardStep api.registry gateway.guard event guard log →
        .served id peer (.connect service target) ∈ log →
          MayReach api configs peer target := by
    intro event guard log step logged
    rcases traced.roles.connects step logged with
      ⟨exposed, roles, registered, rfl, held, given⟩
    rcases gatewayRegistry_get registered with rfl | rfl
    · rcases given.owner (held _ rfl) with ⟨config, here, owns⟩
      exact .guardPort here owns
    · rcases given.named with ⟨config, here, named⟩
      exact .clientPort here named
  cases step with
  | received queued step =>
      rcases List.mem_map.mp connected with ⟨action, logged, same⟩
      cases same
      exact reached step logged
  | guarded other step =>
      rcases List.mem_map.mp connected with ⟨action, logged, same⟩
      cases same
      exact reached step logged
  | _ => simp at connected

section Runs

variable {api : Api} {table : ConfigTable}
    {loaded : List ConfigNodeGuardRow} {now : UInt64}
    {start finish : GatewayApi PeerId} {trace : List (ApiTransition PeerId)}

/-- Traced to what was provided in the run so far. -/
def TracedIn (api : Api) (loaded : List ConfigNodeGuardRow)
    (trace : List (ApiTransition PeerId)) (gateway : GatewayApi PeerId) :
    Prop :=
  Traced (Provided api loaded trace) gateway

theorem traced_boot
    (booted : GatewayApi.boot api table loaded now = some start) :
    TracedIn api loaded [] start := by
  rcases Option.map_eq_some_iff.mp booted with ⟨gateway, started, rfl⟩
  rcases Option.map_eq_some_iff.mp started with ⟨whitelist, rebuilt, rfl⟩
  refine ⟨by simp, by simp, rolesObey_start ?_⟩
  intro peer roles listed
  rw [roles_rebuildWhitelist rebuilt, ← lastSome_configs] at listed
  rcases lastSome_eq_some_iff _ _ _ |>.mp listed with
    ⟨front, entry, back, whole, said, -⟩
  rcases List.mem_flatMap.mp (whole ▸ List.mem_append_right front
    List.mem_cons_self) with ⟨config, stored, given⟩
  rcases Option.ite_none_right_eq_some.mp said with ⟨rfl, same⟩
  cases same
  exact ⟨config, Or.inl stored, given⟩

theorem traced_run
    (booted : GatewayApi.boot api table loaded now = some start)
    (run : Run (stepApi api) start trace finish) :
    TracedIn api loaded trace finish := by
  refine run.history (traced_boot booted) ?_
  intro trace state event next actions prior traced taken
  have step := stepApi_step taken
  have before := Traced.mono traced fun config provided =>
    provided.later ⟨state, event, actions, next⟩
  refine before.step step ?_
  intro config stored
  rcases step.stored_authorized stored with ⟨request, around, here, token⟩
  exact Or.inr ⟨_, List.mem_concat_self, request, around, here, token, stored⟩

/--
In every run of the gateway, with any number of calls and requests side by
side, whenever a tunnel of a peer is connected, it is connected to one of the
two loopback ports: to that of the Guards only for the owner of a configuration
that was loaded at the start or stored before by a request with the admin
token, and to that of the clients only for a peer that such a configuration
names.
-/
theorem access_traces_to_token {earlier later : List (ApiTransition PeerId)}
    {mark : ApiTransition PeerId}
    (booted : GatewayApi.boot api table loaded now = some start)
    (run : Run (stepApi api) start (earlier ++ mark :: later) finish)
    {id : Nat} {peer : PeerId} {service : String} {target : SocketAddr}
    (connected : .guard (.served id peer (.connect service target)) ∈
      mark.actions) :
    (target = .loopback api.config.guardPort ∨
        target = .loopback api.config.clientPort) ∧
      (target = .loopback api.config.guardPort →
        ∃ config, Provided api loaded earlier config ∧ Owns config peer) ∧
      (target = .loopback api.config.clientPort →
        ∃ config, Provided api loaded earlier config ∧ Names config peer) := by
  rcases run.transition with ⟨prior, taken, -⟩
  have differ : SocketAddr.loopback api.config.guardPort ≠
      .loopback api.config.clientPort := by
    intro same
    simp only [SocketAddr.loopback, SocketAddr.v4.injEq] at same
    exact api.config.portsDiffer same.2
  have traced : Traced _ _ := traced_run booted prior
  have reached := traced.connects (stepApi_step taken) connected
  cases reached with
  | guardPort given owns =>
      exact ⟨Or.inl rfl, fun _ => ⟨_, given, owns⟩,
        fun same => absurd same differ⟩
  | clientPort given named =>
      exact ⟨Or.inr rfl, fun same => absurd same.symm differ,
        fun _ => ⟨_, given, named⟩⟩

end Runs

section SmallRun

open SmallGateway SmallApi

/-- The opening frame of a tunnel to the port of the Guards. -/
def SmallApi.frame : List UInt8 :=
  let header : TunnelHeader :=
    ⟨"gwapi-guard", Vector.replicate sha256Len 0⟩
  0 :: 44 :: tunnelHeaderBytes header

/-- The Guard authenticates and opens a tunnel. -/
def SmallApi.opens : List (GuardEvent BytePeer) :=
  SmallGuard.handshake ++ [.incomingStream 0, .task 0 (.received frame)]

/-- The Guard is provided, shakes hands and opens a tunnel. -/
def SmallApi.reaches : List (ApiEvent BytePeer) :=
  put (bearerHeader config.adminToken) :: pushed ++ opens.map .guard

/-- It is connected to the router of the Guards. -/
def SmallApi.connects (transition : ApiTransition BytePeer) : Bool :=
  transition.actions.any fun action =>
    match action with
    | .guard (.served id peer (.connect service target)) =>
        id = 0 ∧ peer = guardPeer ∧ service = "gwapi-guard" ∧
          target = .loopback config.guardPort
    | _ => false

theorem SmallApi.connects_iff {transition : ApiTransition BytePeer} :
    connects transition = true ↔
      .guard (.served 0 guardPeer (.connect "gwapi-guard"
        (.loopback config.guardPort))) ∈ transition.actions := by
  rw [connects, List.any_eq_true]
  constructor
  · rintro ⟨action, member, test⟩
    split at test
    · simp only [decide_eq_true_eq] at test
      rcases test with ⟨rfl, rfl, rfl, rfl⟩
      exact member
    · cases test
  · intro member
    exact ⟨_, member, by simp⟩

theorem access_traces_to_token_small :
    ∃ trace finish transition,
      Run (stepApi api) SmallApi.start trace finish ∧
      trace.map Transition.event = SmallApi.reaches ∧
      transition ∈ trace ∧ connects transition = true ∧
      ∃ stored, Provided api [] trace stored ∧ Owns stored guardPeer := by
  have computed : (execute (stepApi api) SmallApi.start SmallApi.reaches).any
      (fun result => result.1.any connects) = true := by
    decide +kernel
  rcases exists_run_of_any computed with ⟨trace, finish, run, events, observed⟩
  rcases List.any_eq_true.mp observed with ⟨mark, member, connected⟩
  rcases List.append_of_mem member with ⟨earlier, later, rfl⟩
  have traced := access_traces_to_token start_booted run
    (connects_iff.mp connected)
  rcases traced.2.1 rfl with ⟨stored, provided, owns⟩
  refine ⟨_, finish, mark, run, events, member, connected, stored, ?_, owns⟩
  rcases provided with loaded | ⟨transition, before, brought⟩
  · exact Or.inl loaded
  · exact Or.inr ⟨transition, List.mem_append_left _ before, brought⟩

end SmallRun

/-! ## The token as a key -/

/-- What `put_config` itself answers is no refusal of the token. -/
def OfHandler (error : AppError) : Prop :=
  error = .internal ∨ ∃ message, error = .badRequest message

omit [DecidableEq PeerId] [PeerIdentity PeerId] in
variable (PeerId) in
theorem validateInput_failsIn (input : ConfigNodeGuardInput) :
    FailsIn OfHandler (validateInput PeerId input) := by
  have required : ∀ test message,
      FailsIn OfHandler (requireOr test message) := by
    intro test message error failed
    cases test with
    | true => cases failed
    | false =>
        cases failed
        exact Or.inr ⟨message, rfl⟩
  refine (required _ _).bind fun _ => ?_
  refine (FailsIn.forM (fun ip => required _ _) _).bind fun _ => ?_
  refine (FailsIn.forM (fun entry => required _ _) _).bind fun _ => ?_
  refine FailsIn.forM (fun entry => ?_) _
  refine (required _ _).bind fun _ => ?_
  split
  · intro error failed
    cases failed
    exact Or.inr ⟨_, rfl⟩
  · exact required _ _

omit [DecidableEq PeerId] [PeerIdentity PeerId] in
theorem putConfig_refused {serde : SerdeJson} {table : ConfigTable}
    {uuid updatedAt : String} {input : ConfigNodeGuardInput} {written : Bool}
    {error : AppError}
    (put : (putConfig serde table uuid input updatedAt written :
      PutResult PeerId) = .refused error) :
    OfHandler error := by
  unfold putConfig at put
  split at put
  · split at put
    · rename_i failed
      cases put
      exact validateInput_failsIn PeerId input error failed
    · split at put
      · dsimp only at put
        split at put
        · cases put
        · cases put
      · cases put
        exact Or.inl rfl
  · cases put
    exact Or.inr ⟨_, rfl⟩

section Token

variable {api : Api} {gateway next : GatewayApi PeerId}
    {request : ApiRequest} {around : Surroundings}
    {actions : List (ApiAction PeerId)}

/-- The refusal of `require_bearer`. -/
def refusedToken : List (ApiAction PeerId) :=
  [.answered .admin (.error .unauthorized)]

omit [DecidableEq PeerId] [PeerIdentity PeerId] [PeerIdText PeerId] in
theorem OfHandler.ne_refused {error : AppError} (ofHandler : OfHandler error) :
    [ApiAction.answered .admin (.error error)] ≠
      (refusedToken : List (ApiAction PeerId)) := by
  rintro same
  simp only [refusedToken, List.cons.injEq, ApiAction.answered.injEq,
    Reply.error, Reply.response.injEq, and_true, true_and] at same
  rcases ofHandler with rfl | ⟨message, rfl⟩
  · exact absurd (congrArg Response.status same) (by decide)
  · have status := congrArg Response.status same
    cases status

omit [DecidableEq PeerId] [PeerIdentity PeerId] in
theorem Api.putConfig_answers {captures : Captures} :
    (api.putConfig gateway captures request around).2 ≠ refusedToken := by
  unfold Api.putConfig
  split
  · simp [refusedToken, Reply.error]
  · split
    · simp [refusedToken, Reply.error]
    · split
      · rename_i refused
        exact (putConfig_refused refused).ne_refused
      · simp [refusedToken, Reply.error]
      · simp [refusedToken]

/-- Who asks for the route of `put_config` gets past the layer in front of it
with this header only. -/
def PassesToken (api : Api) (request : ApiRequest) : Prop :=
  request.authorization = some (bearerHeader api.config.adminToken) ∧
    TokenVisible api.config.adminToken

/-- The path is that of `put_config`. -/
def ForPutConfig (request : ApiRequest) : Prop :=
  ∃ method path captures,
    routeOf adminRouter request.path =
      some (⟨method, path, .putConfig⟩, captures)

theorem refusedToken_iff (forPut : ForPutConfig request)
    (taken : stepApi api gateway (.request .admin request around) =
      some (next, actions)) :
    actions = refusedToken ↔ ¬ PassesToken api request := by
  rcases forPut with ⟨method, path, captures, routed⟩
  have served : api.admin gateway request around = (next, actions) :=
    Option.some.inj taken
  rw [PassesToken, ← requireBearer_iff]
  simp only [Api.admin, routed] at served
  split at served
  · rename_i accepted
    refine iff_of_false ?_ (not_not_intro accepted)
    split at served
    · intro same
      refine Api.putConfig_answers ((congrArg Prod.snd served).trans same)
    · cases served
      simp [refusedToken, wrongMethod, Reply.error, AppError.intoResponse]
  · rename_i rejected
    cases served
    exact iff_of_true rfl rejected

end Token

/-- Nothing but the sessions and the limiters has moved. -/
structure Frozen (start gateway : GatewayApi PeerId) : Prop where
  table : gateway.table = start.table
  calls : gateway.calls = []
  channel : gateway.channel = []
  whitelist : gateway.guard.authenticator.whitelist =
    start.guard.authenticator.whitelist

theorem Frozen.step {api : Api} {start gateway next : GatewayApi PeerId}
    {event : ApiEvent PeerId} {actions : List (ApiAction PeerId)}
    (frozen : Frozen start gateway)
    (step : ApiStep api gateway event next actions)
    (noToken : ∀ request around, event = .request .admin request around →
      ¬ Authorized api request) :
    Frozen start next := by
  have idle : ∀ call : Nat, gateway.calls[call]? = none := by
    intro call
    rw [frozen.calls]
    rfl
  cases step with
  | answered => exact frozen
  | configRead =>
      exact ⟨frozen.table, frozen.calls, frozen.channel, frozen.whitelist⟩
  | stateRelayed =>
      exact ⟨frozen.table, frozen.calls, frozen.channel, frozen.whitelist⟩
  | panicked authorized put => exact absurd authorized (noToken _ _ rfl)
  | stored authorized put => exact absurd authorized (noToken _ _ rfl)
  | sent waiting =>
      rw [idle] at waiting
      cases waiting
  | unsent waiting =>
      rw [idle] at waiting
      cases waiting
  | replied done =>
      rw [idle] at done
      cases done
  | received queued =>
      rw [frozen.channel] at queued
      cases queued
  | guarded other step =>
      refine ⟨frozen.table, frozen.calls, frozen.channel, ?_⟩
      refine (step.whitelist_kept ?_).trans frozen.whitelist
      intro command
      rename_i event guard actions
      cases event with
      | control control now => cases other
      | _ => exact command

/--
In every run, a request for the path of `put_config` is refused for its token
exactly unless its header is the scheme and the token and the token is visible
text; and as long as no request with that header uses the method, the table and
the whitelist are those of the start.  A token that `from_env` accepts and that
is no visible text therefore locks both for as long as the gateway runs.
-/
theorem admin_token_is_the_key {api : Api} {table : ConfigTable}
    {loaded : List ConfigNodeGuardRow} {now : UInt64}
    {start finish : GatewayApi PeerId} {trace : List (ApiTransition PeerId)}
    (booted : GatewayApi.boot api table loaded now = some start)
    (run : Run (stepApi api) start trace finish) :
    (∀ transition ∈ trace, ∀ request around,
      transition.event = .request .admin request around →
        ForPutConfig request →
          (transition.actions = refusedToken ↔ ¬ PassesToken api request)) ∧
      ((∀ transition ∈ trace, ∀ request around,
        transition.event = .request .admin request around →
          ¬ Authorized api request) →
        finish.table = start.table ∧
          finish.guard.authenticator.whitelist =
            start.guard.authenticator.whitelist) := by
  constructor
  · intro transition member request around here forPut
    rcases List.append_of_mem member with ⟨earlier, later, rfl⟩
    rcases run.transition with ⟨-, taken, -⟩
    rw [here] at taken
    exact refusedToken_iff forPut taken
  · intro noToken
    have frozen : Frozen start start := by
      rcases Option.map_eq_some_iff.mp booted with ⟨gateway, started, rfl⟩
      rcases Option.map_eq_some_iff.mp started with ⟨whitelist, rebuilt, rfl⟩
      exact ⟨rfl, rfl, rfl, rfl⟩
    have kept : Frozen start finish := by
      clear booted
      induction run with
      | start => exact frozen
      | snoc prior taken induction =>
          have before := induction fun transition member =>
            noToken transition (List.mem_append_left _ member)
          exact before.step (stepApi_step taken) fun request around here =>
            noToken _ List.mem_concat_self request around here
    exact ⟨kept.table, kept.whitelist⟩

section SmallToken

open SmallGateway SmallApi

/-- Sixteen bytes, and none of them may stand in a text header. -/
def SmallApi.accented : String := "éééééééé"

/-- An environment whose token is long enough but cannot be read in a header. -/
def SmallApi.accentedEnv : Environment := fun key =>
  match key with
  | "NUX_GW_GUARD_PORT" => some "9001"
  | "NUX_GW_CLIENT_PORT" => some "9002"
  | "NUX_GW_API_URL" => some "http://dashboard/"
  | "DATABASE_URL" => some "gateway.db"
  | "NUX_GW_ADMIN_TOKEN" => some accented
  | _ => none

/-- Parsers that accept what the environment holds. -/
def SmallApi.parsers : EnvParsers where
  socketAddr _ := .ok config.adminAddr
  multiaddr _ := .ok ()

theorem SmallApi.accented_long :
    minTokenLen ≤ (utf8Bytes accented).length := by
  decide +kernel

/-- The configuration that comes of it. -/
def SmallApi.locked : Config where
  adminAddr := config.adminAddr
  guardPort := config.guardPort
  clientPort := config.clientPort
  dashboardBaseUrl := config.dashboardBaseUrl
  adminToken := accented
  dashboardToken := none
  portsDiffer := config.portsDiffer
  tokenLength := accented_long

/-- The gateway starts with the accented token, and refuses its very header. -/
theorem admin_token_is_the_key_small :
    Config.fromEnv parsers accentedEnv = .ok locked ∧
      ∃ trace finish,
        Run (stepApi { api with config := locked }) SmallApi.start trace
          finish ∧
        trace.map Transition.event = [put (bearerHeader accented)] ∧
        (∀ transition ∈ trace, transition.actions = refusedToken) ∧
        finish.table = emptyTable := by
  have booted : GatewayApi.boot { api with config := locked } emptyTable [] 0 =
      some SmallApi.start := rfl
  have computed : (execute (stepApi { api with config := locked })
      SmallApi.start [put (bearerHeader accented)]).any
      (fun result => result.1.length = 1) = true := by
    decide +kernel
  rcases exists_run_of_any computed with ⟨trace, finish, run, events, -⟩
  have hidden : ¬ TokenVisible accented := by decide +kernel
  have forPut : ∀ transition ∈ trace, ∃ request around,
      transition.event = .request .admin request around ∧
        ForPutConfig request := by
    intro transition member
    have listed := @List.mem_map_of_mem _ _ _ _ Transition.event member
    rw [events, List.mem_singleton] at listed
    exact ⟨_, _, listed, .put, _, _, rfl⟩
  rcases admin_token_is_the_key booted run with ⟨refused, frozen⟩
  refine ⟨rfl, trace, finish, run, events, ?_, ?_⟩
  · intro transition member
    rcases forPut transition member with ⟨request, around, here, forPut⟩
    exact (refused transition member request around here forPut).mpr
      fun passes => hidden passes.2
  · exact (frozen fun transition member request around here authorized =>
      hidden authorized.visible).1

end SmallToken

end NuxAuth.Gateway
