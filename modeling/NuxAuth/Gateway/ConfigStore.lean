import NuxAuth.Gateway.ApiAccess

/-!
# The configurations as a store

For the dashboard and the Guards the gateway is a store: `put_config` writes
the configuration of a `uuid` and `get_config` reads it back through a tunnel.
Between a write and its answer other calls write, read and restart windows; a
read finds the last configuration stored for its `uuid` before it, which is the
one that its writer is answered with.
-/

namespace NuxAuth.Gateway

open NuxAuth.Core
open NuxAuth.Lib.KeyedList NuxAuth.Lib.LastWrite NuxAuth.Lib.PathRouting
open NuxAuth.Lib.RecordedRun

variable {PeerId : Type} [DecidableEq PeerId] [PeerIdentity PeerId]
    [PeerIdText PeerId]

/-- The configuration, if it is that of the `uuid`. -/
def withUuid (uuid : String) (config : ConfigNodeGuard) :
    Option ConfigNodeGuard :=
  if config.uuid = uuid then some config else none

/-- The configurations that a transition stored: one or none. -/
def storedBy (transition : ApiTransition PeerId) : List ConfigNodeGuard :=
  transition.actions.filterMap fun action =>
    match action with
    | .stored config => some config
    | _ => none

/-- Everything that was in the store so far, oldest first. -/
def storeHistory (api : Api) (loaded : List ConfigNodeGuardRow)
    (trace : List (ApiTransition PeerId)) : List ConfigNodeGuard :=
  configsOf api.serde loaded ++ trace.flatMap storedBy

/-- No handler panicked on its way. -/
def NoPanic (trace : List (ApiTransition PeerId)) : Prop :=
  ∀ transition ∈ trace, ∀ port, .answered port .dropped ∉ transition.actions

/-- Looked up by `uuid`, the table is the history's last word. -/
structure Serves (serde : SerdeJson) (history : List ConfigNodeGuard)
    (gateway : GatewayApi PeerId) : Prop where
  rows : ∀ uuid,
    (gateway.table.rows.find? fun row => row.uuid = uuid).map
        (ConfigNodeGuard.ofRow serde) =
      (lastSome (withUuid uuid) history).map some
  calls : ∀ call ∈ gateway.calls, call.saved ∈ history

section Loaded

variable {serde : SerdeJson} {table : ConfigTable}
    {loaded : List ConfigNodeGuardRow}

theorem lastSome_withUuid_eq_some {history : List ConfigNodeGuard}
    {uuid : String} {config : ConfigNodeGuard}
    (last : lastSome (withUuid uuid) history = some config) :
    config ∈ history ∧ config.uuid = uuid := by
  rcases (lastSome_eq_some_iff _ _ _).mp last with
    ⟨front, found, back, rfl, said, -⟩
  rcases Option.ite_none_right_eq_some.mp said with ⟨here, same⟩
  cases same
  exact ⟨by simp, here⟩

/-- The rows as they were loaded, whatever their order. -/
theorem find?_loaded (readable : Readable serde loaded)
    (order : loaded.Perm table.rows) (uuid : String) :
    (table.rows.find? fun row => row.uuid = uuid).map
        (ConfigNodeGuard.ofRow serde) =
      (lastSome (withUuid uuid) (configsOf serde loaded)).map some := by
  cases last : lastSome (withUuid uuid) (configsOf serde loaded) with
  | some config =>
      rcases lastSome_withUuid_eq_some last with ⟨member, here⟩
      rcases List.mem_filterMap.mp member with ⟨row, inLoaded, read⟩
      have found := table.primaryKey.find?_eq_some_iff.mpr
        ⟨order.mem_iff.mp inLoaded, (ofRow_uuid read).symm.trans here⟩
      rw [found, Option.map_some, Option.map_some, read]
  | none =>
      have silent := (lastSome_eq_none_iff _ _).mp last
      cases found : table.rows.find? fun row => row.uuid = uuid with
      | none => rfl
      | some row =>
          rcases table.primaryKey.find?_eq_some_iff.mp found with
            ⟨member, here⟩
          have inLoaded := order.mem_iff.mpr member
          rcases Option.isSome_iff_exists.mp (readable row inLoaded) with
            ⟨config, read⟩
          have absent := silent config
            (List.mem_filterMap.mpr ⟨row, inLoaded, read⟩)
          rw [withUuid, if_pos ((ofRow_uuid read).trans here)] at absent
          cases absent

end Loaded

section Steps

variable {api : Api} {gateway next : GatewayApi PeerId}
    {event : ApiEvent PeerId} {actions : List (ApiAction PeerId)}
    {history : List ConfigNodeGuard}

omit [DecidableEq PeerId] [PeerIdentity PeerId] [PeerIdText PeerId] in
/-- A step that touches neither the rows nor the calls. -/
theorem Serves.same (serves : Serves api.serde history gateway)
    (table : next.table = gateway.table)
    (calls : ∀ call ∈ next.calls, ∃ before ∈ gateway.calls,
      before.saved = call.saved)
    (silent : storedBy ⟨gateway, event, actions, next⟩ = []) :
    Serves api.serde
      (history ++ storedBy ⟨gateway, event, actions, next⟩) next := by
  rw [silent, List.append_nil]
  refine ⟨by rw [table]; exact serves.rows, ?_⟩
  intro call member
  rcases calls call member with ⟨before, present, same⟩
  rw [← same]
  exact serves.calls before present

theorem Serves.step (serves : Serves api.serde history gateway)
    (step : ApiStep api gateway event next actions)
    (calm : ∀ port, .answered port .dropped ∉ actions) :
    Serves api.serde
      (history ++ storedBy ⟨gateway, event, actions, next⟩) next := by
  have kept : ∀ call ∈ gateway.calls, ∃ before ∈ gateway.calls,
      before.saved = call.saved :=
    fun call member => ⟨call, member, rfl⟩
  cases step with
  | answered => exact serves.same rfl kept (by simp [storedBy])
  | configRead => exact serves.same rfl kept (by simp [storedBy])
  | stateRelayed => exact serves.same rfl kept (by simp [storedBy])
  | panicked => exact absurd List.mem_cons_self (calm .admin)
  | @stored request around uuid input table config messages authorized put =>
      have stores : storedBy ⟨gateway, .request .admin request around,
          [.stored config], { gateway with
            table := table
            calls := gateway.calls ++ [⟨config, messages⟩] }⟩ = [config] :=
        rfl
      rcases (putConfig_saved put).1 with ⟨row, rfl, read, -⟩
      rw [stores]
      constructor
      · intro wanted
        have found : (gateway.table.upsert row).rows.find?
            (fun row => row.uuid = wanted) =
              if row.uuid = wanted then some row
              else gateway.table.rows.find? fun row => row.uuid = wanted :=
          find?_upsertBy _ _ _ _
        rw [found, lastSome_append, lastSome_cons, lastSome_nil,
          Option.none_or, withUuid, ofRow_uuid read]
        by_cases here : row.uuid = wanted
        · rw [if_pos here, if_pos here, Option.map_some, read,
            Option.some_or, Option.map_some]
        · rw [if_neg here, if_neg here, Option.none_or]
          exact serves.rows wanted
      · intro call member
        rcases List.mem_append.mp member with old | new
        · exact List.mem_append_left _ (serves.calls call old)
        · rw [List.mem_singleton.mp new]
          exact List.mem_append_right _ List.mem_cons_self
  | sent waiting listening room =>
      refine serves.same rfl ?_ rfl
      intro call member
      rcases List.mem_or_eq_of_mem_set member with old | rfl
      · exact ⟨call, old, rfl⟩
      · exact ⟨_, List.mem_of_getElem? waiting, rfl⟩
  | unsent waiting deaf =>
      refine serves.same rfl ?_ rfl
      intro call member
      rcases List.mem_or_eq_of_mem_set member with old | rfl
      · exact ⟨call, old, rfl⟩
      · exact ⟨_, List.mem_of_getElem? waiting, rfl⟩
  | replied done =>
      refine serves.same rfl ?_ rfl
      intro call member
      exact ⟨call, List.mem_of_mem_eraseIdx member, rfl⟩
  | received => exact serves.same rfl kept (by simp [storedBy])
  | guarded => exact serves.same rfl kept (by simp [storedBy])

end Steps

section Runs

variable {api : Api} {table : ConfigTable}
    {loaded : List ConfigNodeGuardRow} {now : UInt64}
    {start finish : GatewayApi PeerId} {trace : List (ApiTransition PeerId)}

theorem serves_run (order : loaded.Perm table.rows)
    (booted : GatewayApi.boot api table loaded now = some start)
    (run : Run (stepApi api) start trace finish) (calm : NoPanic trace) :
    Serves api.serde (storeHistory api loaded trace) finish := by
  induction run with
  | start =>
      rcases Option.map_eq_some_iff.mp booted with ⟨gateway, started, rfl⟩
      rcases Option.map_eq_some_iff.mp started with ⟨whitelist, rebuilt, rfl⟩
      have readable := (rebuildWhitelist_eq_some_iff.mp rebuilt).1
      rw [storeHistory, List.flatMap_nil, List.append_nil]
      exact ⟨find?_loaded readable order, by simp⟩
  | snoc prior taken induction =>
      have before := induction fun transition member =>
        calm transition (List.mem_append_left _ member)
      have after := before.step (stepApi_step taken)
        (calm _ List.mem_concat_self)
      rw [storeHistory, List.flatMap_append, ← List.append_assoc]
      simpa [storeHistory] using after

/-- What `get_config` answers from the history. -/
def lastAnswer (history : List ConfigNodeGuard) (uuid : String) : Reply :=
  match lastSome (withUuid uuid) history with
  | some config => .response ⟨.ok, some config.toJson⟩
  | none => .error .notFound

/-- An admitted request for the configuration of the `uuid`. -/
structure ReadsUuid (PeerId : Type) [PeerIdText PeerId]
    (gateway : GatewayApi PeerId) (request : ApiRequest)
    (around : Surroundings) (uuid : String) : Prop where
  dispatched : ∃ captures,
    dispatch guardRouter request.method request.path =
        .handled .getConfig captures ∧
      extractPath captures = .ok uuid
  valid : parsesAs PeerId uuid = true
  admitted : (gateway.getConfigLimiter.allow around.now).2 = true
  statement : around.statement = true

omit [DecidableEq PeerId] [PeerIdentity PeerId] in
theorem getConfig_of_find {serde : SerdeJson}
    {history : List ConfigNodeGuard} {uuid : String}
    (valid : parsesAs PeerId uuid = true)
    (rows : (table.rows.find? fun row => row.uuid = uuid).map
        (ConfigNodeGuard.ofRow serde) =
      (lastSome (withUuid uuid) history).map some) :
    Reply.ofHandler (getConfig PeerId serde table uuid true) =
      lastAnswer history uuid := by
  rw [getConfig, if_pos valid, if_pos rfl, lastAnswer]
  cases found : table.rows.find? fun row => row.uuid = uuid with
  | none =>
      rw [found, Option.map_none] at rows
      rw [Option.map_eq_none_iff.mp rows.symm]
      rfl
  | some row =>
      rw [found, Option.map_some] at rows
      rcases Option.map_eq_some_iff.mp rows.symm with ⟨config, last, read⟩
      dsimp only
      rw [last, ← read]
      rfl

theorem Serves.answers {gateway next : GatewayApi PeerId}
    {history : List ConfigNodeGuard} {request : ApiRequest}
    {around : Surroundings} {uuid : String}
    {actions : List (ApiAction PeerId)}
    (serves : Serves api.serde history gateway)
    (reads : ReadsUuid PeerId gateway request around uuid)
    (taken : stepApi api gateway (.request .guard request around) =
      some (next, actions)) :
    actions = [.answered .guard (lastAnswer history uuid)] := by
  rcases reads.dispatched with ⟨captures, dispatched, named⟩
  rw [dispatch_eq_routeOf] at dispatched
  split at dispatched
  · cases dispatched
  · rename_i route found routed
    rcases route with ⟨method, path, handler⟩
    split at dispatched
    · rename_i same
      cases dispatched
      have served : api.guard gateway request around = (next, actions) :=
        Option.some.inj taken
      simp only [Api.guard, routed] at served
      have logged : (api.getConfig gateway method captures request around).2 =
          actions := congrArg Prod.snd served
      have method : method.serves request.method = true := same
      rw [← logged]
      simp only [Api.getConfig, reads.admitted, if_true, if_pos method, named,
        reads.statement]
      rw [getConfig_of_find reads.valid (serves.rows uuid)]
    · cases dispatched

/--
In every run without a panic, whatever writes, sends and restarts of windows
come in between: an admitted request for the configuration of a `uuid` is
answered with the last configuration that was loaded or stored for it, or that
there is none; and a writer is answered with a configuration that was stored.
-/
theorem get_config_answers_last_put (order : loaded.Perm table.rows)
    (booted : GatewayApi.boot api table loaded now = some start)
    {earlier later : List (ApiTransition PeerId)} {mark : ApiTransition PeerId}
    (run : Run (stepApi api) start (earlier ++ mark :: later) finish)
    (calm : NoPanic earlier) :
    (∀ request around uuid, mark.event = .request .guard request around →
      ReadsUuid PeerId mark.before request around uuid →
        mark.actions =
          [.answered .guard
            (lastAnswer (storeHistory api loaded earlier) uuid)]) ∧
      ∀ call, mark.event = .reply call →
        ∃ config ∈ storeHistory api loaded earlier,
          mark.actions =
            [.answered .admin (.response ⟨.ok, some config.toJson⟩)] := by
  rcases run.transition with ⟨prior, taken, -⟩
  have serves := serves_run order booted prior calm
  rcases mark with ⟨before, event, actions, after⟩
  constructor
  · rintro request around uuid rfl reads
    exact serves.answers reads taken
  · rintro call rfl
    have step : ApiStep api before (.reply call) after actions :=
      stepApi_step taken
    cases step with
    | @replied call saved done =>
        exact ⟨saved, serves.calls _ (List.mem_of_getElem? done), rfl⟩

end Runs

section SmallStore

open SmallGateway SmallApi

/-- The first transition stores something, and the second one may read. -/
def SmallApi.storesThenReads : List (ApiTransition BytePeer) → Bool
  | [first, second] =>
      (storedBy first).length = 1 ∧
        (first.actions.all fun action =>
          match action with
          | .answered _ _ => false
          | _ => true) = true ∧
        (second.before.getConfigLimiter.allow 0).2 = true
  | _ => false

theorem get_config_answers_last_put_small :
    ∃ (first second : ApiTransition BytePeer) (finish : GatewayApi BytePeer),
      Run (stepApi api) SmallApi.start ([first] ++ second :: []) finish ∧
      first.event = put (bearerHeader config.adminToken) ∧
      second.event = SmallApi.get ∧ storeHistory api [] [first] ≠ [] ∧
      second.actions =
        [.answered .guard
          (lastAnswer (storeHistory api [] [first]) guardText)] := by
  have computed : (execute (stepApi api) SmallApi.start
      [put (bearerHeader config.adminToken), SmallApi.get]).any
      (fun result => storesThenReads result.1) = true := by
    decide +kernel
  rcases exists_run_of_any computed with ⟨trace, finish, run, events, observed⟩
  dsimp only at observed
  unfold storesThenReads at observed
  split at observed
  · rename_i first second
    simp only [List.map_cons, List.map_nil, List.cons.injEq, and_true]
      at events
    rcases events with ⟨stores, reads⟩
    rw [decide_eq_true_eq] at observed
    rcases observed with ⟨stored, unanswered, admitted⟩
    have calm : NoPanic [first] := by
      intro transition member port dropped
      rw [List.mem_singleton.mp member] at dropped
      exact Bool.false_ne_true (List.all_eq_true.mp unanswered _ dropped)
    have shaped : Run (stepApi api) SmallApi.start ([first] ++ second :: [])
        finish := run
    have answered := (get_config_answers_last_put .rfl start_booted shaped
      calm).1
    refine ⟨first, second, finish, shaped, stores, reads, ?_,
      answered _ _ _ reads ⟨⟨_, rfl, rfl⟩, rfl, admitted, rfl⟩⟩
    intro empty
    have none : storedBy first = [] := by
      simpa [storeHistory, configsOf] using empty
    rw [none] at stored
    cases stored
  · cases observed

end SmallStore

end NuxAuth.Gateway
