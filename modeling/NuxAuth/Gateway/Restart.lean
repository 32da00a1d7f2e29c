import NuxAuth.Gateway.LiveWhitelist

/-!
# Restarting the gateway

A restart forgets everything but the rows.  It changes nobody's authorizations
exactly when, for every peer ever named, the last configuration in the history
that names it and the last stored one that names it agree on whether it is
under `allow`.  Overwriting a configuration breaks this: the peers it drops
keep what the running loop was told, and are forgotten by the restart.
-/

namespace NuxAuth.Gateway

open NuxAuth.Core
open NuxAuth.Lib.KeyedList NuxAuth.Lib.LastWrite NuxAuth.Lib.RecordedRun

variable {PeerId : Type} [DecidableEq PeerId] [PeerIdentity PeerId]
    [PeerIdText PeerId]

/-- The live whitelist is the rebuilt one, and no command is on its way. -/
structure Settled (serde : SerdeJson) (loaded : List ConfigNodeGuardRow)
    (gateway : NuxGateway PeerId) : Prop where
  receiving : Receiving gateway.guard
  sent : gateway.sending = []
  consumed : gateway.channel = []
  order : loaded.Perm gateway.table.rows
  rebuilt : rebuildWhitelist serde loaded =
    some gateway.guard.authenticator.whitelist

omit [PeerIdentity PeerId] in
/-- A gateway that just booted is settled. -/
theorem settled_of_boot {serde : SerdeJson}
    {registry : TunnelRegistry PeerId} {table : ConfigTable}
    {loaded : List ConfigNodeGuardRow} (order : loaded.Perm table.rows)
    {gateway : NuxGateway PeerId}
    (booted : NuxGateway.boot serde registry table loaded = some gateway) :
    Settled serde loaded gateway := by
  rcases Option.map_eq_some_iff.mp booted with ⟨whitelist, rebuilt, rfl⟩
  exact ⟨⟨rfl, rfl, rfl⟩, rfl, rfl, order, rebuilt⟩

/-! ## The start of a history -/

omit [DecidableEq PeerId] [PeerIdentity PeerId] [PeerIdText PeerId] in
theorem mem_of_lastStored {history : List ConfigNodeGuard}
    {config : ConfigNodeGuard} (last : LastStored history config) :
    config ∈ history := by
  rcases last with ⟨front, mark, back, rfl, rfl, -⟩
  simp

theorem lastStored_iff_mem {configs : List ConfigNodeGuard}
    (distinct : DistinctKeys ConfigNodeGuard.uuid configs)
    {config : ConfigNodeGuard} :
    LastStored configs config ↔ config ∈ configs := by
  constructor
  · exact mem_of_lastStored
  · intro member
    rcases List.append_of_mem member with ⟨front, back, rfl⟩
    refine ⟨front, config, back, rfl, rfl, ?_⟩
    intro later inBack same
    rw [DistinctKeys, List.map_append, List.map_cons] at distinct
    have fresh := (List.nodup_cons.mp (List.nodup_append.mp distinct).2.1).1
    exact fresh (same ▸ List.mem_map_of_mem inBack)

theorem distinct_configsOf {serde : SerdeJson}
    {rows : List ConfigNodeGuardRow}
    (distinct : DistinctKeys ConfigNodeGuardRow.uuid rows) :
    DistinctKeys ConfigNodeGuard.uuid (configsOf serde rows) := by
  refine List.Nodup.sublist ?_ distinct
  clear distinct
  induction rows with
  | nil => exact List.Sublist.slnil
  | cons row rest induction =>
      cases read : ConfigNodeGuard.ofRow serde row with
      | none =>
          rw [configsOf, List.filterMap_cons_none read]
          exact induction.cons _
      | some config =>
          rw [configsOf, List.filterMap_cons_some read, List.map_cons,
            List.map_cons, ofRow_uuid read]
          exact induction.cons_cons _

theorem Settled.inStep {serde : SerdeJson}
    {loaded : List ConfigNodeGuardRow} {gateway : NuxGateway PeerId}
    (settled : Settled serde loaded gateway) :
    InStep serde (configsOf serde loaded) gateway := by
  rcases rebuildWhitelist_eq_some_iff.mp settled.rebuilt with ⟨readable, -⟩
  refine ⟨settled.receiving, ?_, ?_, [], ?_, ?_⟩
  · intro row member
    exact readable row (settled.order.mem_iff.mpr member)
  · have distinct : DistinctKeys ConfigNodeGuardRow.uuid loaded :=
      (settled.order.map _).nodup_iff.mpr gateway.table.primaryKey
    intro config
    rw [lastStored_iff_mem (distinct_configsOf distinct)]
    exact (settled.order.filterMap _).mem_iff.symm
  · rw [settled.sent, settled.consumed]
    rfl
  · intro peer
    exact roles_rebuildWhitelist settled.rebuilt peer

/-- Once every command is consumed, the live roles are those of the history. -/
theorem InStep.roles {serde : SerdeJson} {history : List ConfigNodeGuard}
    {gateway : NuxGateway PeerId} (inStep : InStep serde history gateway)
    (sent : gateway.sending = []) (consumed : gateway.channel = [])
    (peer : PeerId) :
    gateway.guard.authenticator.whitelist.roles peer =
      lastSome (assigned · peer) history := by
  rcases inStep.pushed with ⟨entries, waiting, completes⟩
  rw [sent, consumed] at waiting
  have none : entries = [] := List.map_eq_nil_iff.mp waiting.symm
  rw [← completes peer, none]
  rfl

/-! ## Two histories that agree -/

variable (PeerId) in
/--
For every peer named in the history, the last configuration naming it and the
last stored one naming it agree on whether they list it under `allow`.
-/
def SameLastWord (history stored : List ConfigNodeGuard) : Prop :=
  ∀ (peer : PeerId) (config : ConfigNodeGuard),
    LastNaming history peer config →
      ∃ last, LastNaming stored peer last ∧
        (Lists last peer ↔ Lists config peer)

omit [PeerIdentity PeerId] in
theorem sameRoles_iff_sameLastWord {history stored : List ConfigNodeGuard}
    (subset : ∀ config ∈ stored, config ∈ history) :
    (∀ peer : PeerId,
        (lastSome (assigned · peer) history).map List.toFinset =
          (lastSome (assigned · peer) stored).map List.toFinset) ↔
      SameLastWord PeerId history stored := by
  constructor
  · intro same peer config naming
    have here := same peer
    rw [naming.lastSome_assigned] at here
    cases found : lastSome (assigned · peer) stored with
    | none =>
        rw [found, Option.map_none, Option.map_eq_none_iff,
          assigned_eq_none_iff] at here
        exact absurd naming.named here
    | some roles =>
        rcases lastSome_assigned_eq_some_iff.mp found with
          ⟨last, stored, -⟩
        refine ⟨last, stored, ?_⟩
        rw [stored.lastSome_assigned] at here
        exact ((assigned_roleSet_eq_iff naming.named stored.named).mp
          here).symm
  · intro same peer
    by_cases named : ∃ config ∈ history, Names config peer
    · rcases named with ⟨config, member, named⟩
      rcases exists_lastNaming member named with ⟨config, naming⟩
      rcases same peer config naming with ⟨last, stored, agree⟩
      rw [naming.lastSome_assigned, stored.lastSome_assigned]
      exact (assigned_roleSet_eq_iff naming.named stored.named).mpr
        agree.symm
    · have silent : ∀ config ∈ history, assigned config peer = none := by
        intro config member
        exact assigned_eq_none_iff.mpr fun names =>
          named ⟨config, member, names⟩
      rw [(lastSome_eq_none_iff _ _).mpr silent,
        (lastSome_eq_none_iff _ _).mpr fun config member =>
          silent config (subset config member)]

/--
In every run from a settled gateway, once the loop has consumed the commands: a
restart can rebuild the whitelist, and it maps every peer to the same set of
roles exactly when the history and the stored rows have the same last word.
-/
theorem restart_keeps_roles_iff {serde : SerdeJson}
    {registry : TunnelRegistry PeerId} {start finish : NuxGateway PeerId}
    {trace : List (GatewayTransition PeerId)}
    {loaded reloaded : List ConfigNodeGuardRow}
    (settled : Settled serde loaded start)
    (run : Run (stepGateway serde registry) start trace finish)
    (roundTrips : WritesRoundTrip serde trace)
    (sent : finish.sending = []) (consumed : finish.channel = [])
    (order : reloaded.Perm finish.table.rows) :
    ∃ restarted : Whitelist PeerId,
      rebuildWhitelist serde reloaded = some restarted ∧
        ((∀ peer, roleSet finish.guard.authenticator.whitelist peer =
            roleSet restarted peer) ↔
          SameLastWord PeerId (configsOf serde loaded ++ putConfigs trace)
            (configsOf serde reloaded)) := by
  have inStep := settled.inStep.run run roundTrips
  have readable : Readable serde reloaded := by
    intro row member
    exact inStep.readable row (order.mem_iff.mp member)
  have rebuilt := rebuildWhitelist_eq_some_iff.mpr
    ⟨readable, (rfl : _ = allowAll (Whitelist.new : Whitelist PeerId) _)⟩
  refine ⟨_, rebuilt, ?_⟩
  rw [← sameRoles_iff_sameLastWord]
  · simp only [roleSet, inStep.roles sent consumed,
      roles_rebuildWhitelist rebuilt]
  · intro config member
    apply mem_of_lastStored
    exact (inStep.stored config).mp ((order.filterMap _).mem_iff.mp member)

section SmallRun

open SmallGateway

/-- The small gateway on an empty table. -/
def SmallGateway.start : NuxGateway BytePeer where
  table := emptyTable
  sending := []
  channel := []
  guard := GuardLoop.start (GuardAuthenticator.new Whitelist.new)
    (gatewayRegistry 9001 9002) true {} []

theorem SmallGateway.start_settled :
    Settled serde [] SmallGateway.start := by
  have booted : NuxGateway.boot serde (gatewayRegistry 9001 9002) emptyTable
      [] = some SmallGateway.start := rfl
  exact settled_of_boot .rfl booted

theorem SmallGateway.allowing_roundTrips {peers : List String}
    (few : peers ∈ [[], [guardText], [clientText]]) :
    serde.RoundTrips (allowing peers) := by
  have decoded : ∀ peers ∈ [[], [guardText], [clientText]],
      serde.rateLimitFromStr
          (serde.rateLimitToString (allowing peers).rateLimit) =
        some (allowing peers).rateLimit ∧
      serde.allowFromStr (serde.allowToString (allowing peers).allow) =
        some (allowing peers).allow ∧
      serde.checkSumFromStr
          (serde.checkSumToString (allowing peers).checkSum) =
        some (allowing peers).checkSum := by
    decide +kernel
  rcases decoded peers few with ⟨rateLimit, allow, checkSum⟩
  exact ⟨rateLimit, allow, checkSum⟩

theorem SmallGateway.writesRoundTrip {calls : List (List String)}
    (few : ∀ peers ∈ calls, peers ∈ [[], [guardText], [clientText]])
    {uuid : String} {trace : List (GatewayTransition BytePeer)}
    (events : trace.map Transition.event = calls.flatMap (puts uuid)) :
    WritesRoundTrip serde trace := by
  intro transition member called input updatedAt written here
  have listed := @List.mem_map_of_mem _ _ _ _ Transition.event member
  rw [here, events] at listed
  rcases List.mem_flatMap.mp listed with ⟨peers, call, inside⟩
  rcases List.mem_cons.mp inside with same | other
  · cases same
    exact allowing_roundTrips (few peers call)
  · simp at other

theorem restart_keeps_roles_iff_small :
    ∃ trace finish,
      Run (stepGateway serde (gatewayRegistry 9001 9002)) SmallGateway.start
        trace finish ∧
      trace.map Transition.event = puts guardText [clientText] ∧
      ∃ restarted : Whitelist BytePeer,
        rebuildWhitelist serde finish.table.rows = some restarted ∧
        ∀ peer, roleSet finish.guard.authenticator.whitelist peer =
          roleSet restarted peer := by
  have computed : (execute (stepGateway serde (gatewayRegistry 9001 9002))
      SmallGateway.start (puts guardText [clientText])).any
      (fun result =>
        result.2.sending.isEmpty && (result.2.channel.isEmpty &&
          decide (putConfigs result.1 =
            configsOf serde result.2.table.rows))) = true := by
    decide +kernel
  rcases exists_run_of_any computed with ⟨trace, finish, run, events, observed⟩
  simp only [Bool.and_eq_true, List.isEmpty_iff, decide_eq_true_eq] at observed
  rcases observed with ⟨sent, consumed, same⟩
  have roundTrips : WritesRoundTrip serde trace := by
    have called : trace.map Transition.event =
        [[clientText]].flatMap (puts guardText) := events
    exact writesRoundTrip (by simp) called
  rcases restart_keeps_roles_iff start_settled run roundTrips sent consumed
      .rfl with ⟨restarted, rebuilt, kept⟩
  refine ⟨trace, finish, run, events, restarted, rebuilt, kept.mpr ?_⟩
  have start : configsOf serde [] = [] := rfl
  rw [start, List.nil_append, same]
  intro peer config naming
  exact ⟨config, naming, Iff.rfl⟩

/-- The second call of the same `uuid` drops the peer of the first. -/
def overwritten : List (GatewayEvent BytePeer) :=
  puts guardText [clientText] ++ puts guardText []

theorem overwritten_config_still_live :
    ∃ trace finish,
      Settled serde [] SmallGateway.start ∧
      Run (stepGateway serde (gatewayRegistry 9001 9002)) SmallGateway.start
        trace finish ∧
      trace.map Transition.event = overwritten ∧
      WritesRoundTrip serde trace ∧
      finish.sending = [] ∧ finish.channel = [] ∧
      roleSet finish.guard.authenticator.whitelist clientPeer =
        some [roleClient].toFinset ∧
      ∃ restarted : Whitelist BytePeer,
        rebuildWhitelist serde finish.table.rows = some restarted ∧
        roleSet restarted clientPeer = none := by
  have computed : (execute (stepGateway serde (gatewayRegistry 9001 9002))
      SmallGateway.start overwritten).any
      (fun result =>
        result.2.sending.isEmpty && (result.2.channel.isEmpty &&
          (decide (roleSet result.2.guard.authenticator.whitelist clientPeer =
              some [roleClient].toFinset) &&
            (rebuildWhitelist serde result.2.table.rows).any
              fun restarted : Whitelist BytePeer =>
                decide (roleSet restarted clientPeer = none)))) = true := by
    decide +kernel
  rcases exists_run_of_any computed with ⟨trace, finish, run, events, observed⟩
  simp only [Bool.and_eq_true, List.isEmpty_iff, decide_eq_true_eq,
    Option.any_eq_true] at observed
  rcases observed with ⟨sent, consumed, live, restarted, rebuilt, forgotten⟩
  have roundTrips : WritesRoundTrip serde trace := by
    have called : trace.map Transition.event =
        [[clientText], []].flatMap (puts guardText) := events
    exact writesRoundTrip (by simp) called
  exact ⟨trace, finish, start_settled, run, events, roundTrips, sent, consumed,
    live, restarted, rebuilt, forgotten⟩

end SmallRun

end NuxAuth.Gateway
