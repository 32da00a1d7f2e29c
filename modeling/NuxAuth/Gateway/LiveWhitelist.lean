import NuxAuth.Gateway.Service

/-!
# The live whitelist and the stored configurations

The gateway derives authorizations twice: every `put_config` pushes the entries
of its configuration to the running loop, and a restart folds the entries of
all stored rows.  Both replay entries in order, so both are determined by the
last configuration naming a peer: the first among all configurations there ever
were, the second among those still stored, in the order the table returns them.
-/

namespace NuxAuth.Gateway

open NuxAuth.Core
open NuxAuth.Lib.KeyedList NuxAuth.Lib.LastWrite NuxAuth.Lib.RecordedRun

variable {PeerId : Type} [DecidableEq PeerId] [PeerIdentity PeerId]
    [PeerIdText PeerId]

/-! ## The configurations a run has put -/

/-- The configuration put by a transition, if the call succeeded. -/
def putBy (transition : GatewayTransition PeerId) : Option ConfigNodeGuard :=
  match transition.event with
  | .putConfig uuid input updatedAt _ =>
      if transition.actions.any (fun action =>
          match action with
          | .saved _ => true
          | _ => false) then
        some ⟨uuid, input.rateLimit, input.allow, input.checkSum, updatedAt⟩
      else
        none
  | _ => none

/-- The configurations that a run has stored, in order. -/
def putConfigs (trace : List (GatewayTransition PeerId)) :
    List ConfigNodeGuard :=
  trace.filterMap putBy

/-- What the calls of the run wrote can be read back. -/
def WritesRoundTrip (serde : SerdeJson)
    (trace : List (GatewayTransition PeerId)) : Prop :=
  ∀ transition ∈ trace, ∀ uuid input updatedAt written,
    transition.event = .putConfig uuid input updatedAt written →
      serde.RoundTrips input

/-- Of the configurations so far, the last one with its `uuid`. -/
def LastStored (history : List ConfigNodeGuard) (config : ConfigNodeGuard) :
    Prop :=
  Since (· = config) (fun later => later.uuid = config.uuid) history

/-- The command `put_config` sends for an entry. -/
def allowCommand (entry : PeerId × List String) : GuardControl PeerId :=
  .allow entry.1 entry.2

/-! ## One call of `put_config` -/

omit [DecidableEq PeerId] [PeerIdentity PeerId] in
variable (PeerId) in
/-- A call is refused without effect, or stores and pushes its input. -/
theorem putConfig_cases {serde : SerdeJson} {input : ConfigNodeGuardInput}
    (roundTrips : serde.RoundTrips input) (table : ConfigTable)
    (uuid updatedAt : String) (written : Bool) :
    (∃ error, (putConfig serde table uuid input updatedAt written :
        PutResult PeerId) = .refused error) ∨
      ∃ row config,
        (putConfig serde table uuid input updatedAt written :
            PutResult PeerId) =
          .saved (table.upsert row) config
            ((rolesForConfig config).map allowCommand) ∧
        ConfigNodeGuard.ofRow serde row = some config ∧
        config = ⟨uuid, input.rateLimit, input.allow, input.checkSum,
          updatedAt⟩ := by
  rw [putConfig]
  split
  · cases validateInput PeerId input with
    | error error => exact Or.inl ⟨error, rfl⟩
    | ok checked =>
        cases written with
        | false => exact Or.inl ⟨.internal, rfl⟩
        | true =>
            refine Or.inr ⟨_, _, ?_, ofRow_intoRow roundTrips uuid updatedAt "",
              rfl⟩
            simp only [if_true, ofRow_intoRow roundTrips]
            rfl
  · exact Or.inl ⟨_, rfl⟩

/-! ## What every run preserves -/

/--
The loop receives, the rows can be read and are the last ones put, and what is
still on its way completes the live whitelist to what the history says.
-/
structure InStep (serde : SerdeJson) (history : List ConfigNodeGuard)
    (gateway : NuxGateway PeerId) : Prop where
  receiving : Receiving gateway.guard
  readable : Readable serde gateway.table.rows
  stored : ∀ config, config ∈ configsOf serde gateway.table.rows ↔
    LastStored history config
  pushed : ∃ entries : List (PeerId × List String),
    gateway.channel ++ gateway.sending = entries.map allowCommand ∧
      ∀ peer, (lastSome (entryFor peer) entries).or
          (gateway.guard.authenticator.whitelist.roles peer) =
        lastSome (assigned · peer) history

section Table

variable {serde : SerdeJson} {table : ConfigTable} {row : ConfigNodeGuardRow}
    {config : ConfigNodeGuard}

theorem ofRow_uuid (read : ConfigNodeGuard.ofRow serde row = some config) :
    config.uuid = row.uuid := by
  simp only [ConfigNodeGuard.ofRow, Option.bind_eq_bind,
    Option.bind_eq_some_iff] at read
  rcases read with ⟨rateLimit, -, allow, -, checkSum, -, same⟩
  cases same
  rfl

theorem Readable.upsert (readable : Readable serde table.rows)
    (read : ConfigNodeGuard.ofRow serde row = some config) :
    Readable serde (table.upsert row).rows := by
  intro other member
  rcases (table.primaryKey.mem_upsertBy_iff row other).mp member with
    rfl | ⟨old, -⟩
  · rw [read]
    rfl
  · exact readable other old

theorem mem_configsOf_upsert
    (read : ConfigNodeGuard.ofRow serde row = some config)
    (other : ConfigNodeGuard) :
    other ∈ configsOf serde (table.upsert row).rows ↔
      other = config ∨
        (other ∈ configsOf serde table.rows ∧ other.uuid ≠ config.uuid) := by
  simp only [configsOf, List.mem_filterMap]
  constructor
  · rintro ⟨stored, member, parsed⟩
    rcases (table.primaryKey.mem_upsertBy_iff row stored).mp member with
      rfl | ⟨old, different⟩
    · exact Or.inl (Option.some.inj (parsed.symm.trans read))
    · refine Or.inr ⟨⟨stored, old, parsed⟩, ?_⟩
      rw [ofRow_uuid parsed, ofRow_uuid read]
      exact different
  · rintro (rfl | ⟨⟨stored, old, parsed⟩, different⟩)
    · exact ⟨row, (table.primaryKey.mem_upsertBy_iff row row).mpr
        (Or.inl rfl), read⟩
    · refine ⟨stored, (table.primaryKey.mem_upsertBy_iff row stored).mpr
        (Or.inr ⟨old, ?_⟩), parsed⟩
      rw [← ofRow_uuid parsed, ← ofRow_uuid read]
      exact different

end Table

theorem lastStored_snoc_iff {history : List ConfigNodeGuard}
    {config other : ConfigNodeGuard} :
    LastStored (history ++ [config]) other ↔
      other = config ∨
        (LastStored history other ∧ other.uuid ≠ config.uuid) := by
  rw [LastStored, since_snoc_iff]
  constructor
  · rintro (same | ⟨stored, different⟩)
    · exact Or.inl same.symm
    · exact Or.inr ⟨stored, fun same => different same.symm⟩
  · rintro (same | ⟨stored, different⟩)
    · exact Or.inl same.symm
    · exact Or.inr ⟨stored, fun same => different same.symm⟩

section Step

variable {serde : SerdeJson} {registry : TunnelRegistry PeerId}
    {gateway next : NuxGateway PeerId}
    {actions : List (GatewayAction PeerId)}
    {history : List ConfigNodeGuard}

/-- A stored configuration enters the table and the commands to send. -/
theorem InStep.stores (inStep : InStep serde history gateway)
    (idle : gateway.sending = []) {row : ConfigNodeGuardRow}
    {config : ConfigNodeGuard}
    (read : ConfigNodeGuard.ofRow serde row = some config) :
    InStep serde (history ++ [config])
      { gateway with
        table := gateway.table.upsert row
        sending := (rolesForConfig config).map allowCommand } := by
  rcases inStep.pushed with ⟨entries, waiting, completes⟩
  refine ⟨inStep.receiving, inStep.readable.upsert read, ?_,
    entries ++ rolesForConfig config, ?_, ?_⟩
  · intro other
    rw [mem_configsOf_upsert read, lastStored_snoc_iff, inStep.stored]
  · rw [idle, List.append_nil] at waiting
    rw [List.map_append, ← waiting]
  · intro peer
    rw [lastSome_append, lastSome_append, lastSome_rolesForConfig,
      Option.or_assoc, completes]
    simp

theorem InStep.putConfig (inStep : InStep serde history gateway)
    {uuid : String} {input : ConfigNodeGuardInput} {updatedAt : String}
    {written : Bool} (roundTrips : serde.RoundTrips input)
    (taken : stepGateway serde registry gateway
      (.putConfig uuid input updatedAt written) = some (next, actions)) :
    InStep serde
      (history ++ (putBy ⟨gateway, .putConfig uuid input updatedAt written,
        actions, next⟩).toList) next := by
  simp only [stepGateway] at taken
  split at taken
  · cases taken
  · rename_i idle
    rcases putConfig_cases PeerId roundTrips gateway.table uuid updatedAt
        written with ⟨error, refused⟩ | ⟨row, config, saved, read, same⟩
    · rw [refused] at taken
      cases taken
      simpa [putBy] using inStep
    · rw [saved] at taken
      cases taken
      subst same
      simpa [putBy] using inStep.stores idle read

theorem InStep.send (inStep : InStep serde history gateway)
    (taken : stepGateway serde registry gateway .send =
      some (next, actions)) :
    InStep serde history next := by
  simp only [stepGateway] at taken
  split at taken
  · cases taken
  · rename_i message rest waiting
    rw [if_pos ⟨inStep.receiving.running, inStep.receiving.control⟩] at taken
    rcases Option.ite_none_right_eq_some.mp taken with ⟨room, same⟩
    cases same
    refine ⟨inStep.receiving, inStep.readable, inStep.stored, ?_⟩
    simpa [waiting] using inStep.pushed

theorem InStep.receive (inStep : InStep serde history gateway) {now : Nat}
    (taken : stepGateway serde registry gateway (.receive now) =
      some (next, actions)) :
    InStep serde history next := by
  rcases inStep.pushed with ⟨entries, waiting, completes⟩
  simp only [stepGateway] at taken
  split at taken
  · cases taken
  · rename_i command rest queue
    rcases Option.map_eq_some_iff.mp taken with ⟨⟨guard, log⟩, ran, same⟩
    cases same
    rw [queue] at waiting
    cases entries with
    | nil => cases waiting
    | cons entry later =>
        rw [List.cons_append, List.map_cons, List.cons.injEq] at waiting
        rcases waiting with ⟨rfl, remaining⟩
        rcases inStep.receiving.allow ran with ⟨receiving, allowed⟩
        refine ⟨receiving, inStep.readable, inStep.stored, later, remaining,
          ?_⟩
        intro peer
        rw [← completes peer, lastSome_cons, Option.or_assoc, entryFor]
        dsimp only
        rw [allowed, Whitelist.roles_allow, Function.update_apply]
        by_cases here : entry.1 = peer
        · rw [if_pos here.symm, if_pos here, Option.some_or]
        · rw [if_neg (Ne.symm here), if_neg here, Option.none_or]

theorem InStep.guard (inStep : InStep serde history gateway)
    {event : GuardEvent PeerId}
    (taken : stepGateway serde registry gateway (.guard event) =
      some (next, actions)) :
    InStep serde history next := by
  rcases Option.ite_none_left_eq_some.mp taken with ⟨other, handled⟩
  rcases Option.map_eq_some_iff.mp handled with ⟨⟨guard, log⟩, ran, same⟩
  cases same
  refine ⟨inStep.receiving.step ran other, inStep.readable, inStep.stored, ?_⟩
  rcases inStep.pushed with ⟨entries, waiting, completes⟩
  refine ⟨entries, waiting, ?_⟩
  intro peer
  rw [← completes peer]
  exact congrArg (fun list => (lastSome (entryFor peer) entries).or
    (Whitelist.roles list peer)) (whitelist_kept_of_not_fromChannel ran other)

/-- One transition of the gateway, whichever it is. -/
theorem InStep.step (inStep : InStep serde history gateway)
    {event : GatewayEvent PeerId}
    (roundTrips : ∀ uuid input updatedAt written,
      event = .putConfig uuid input updatedAt written →
        serde.RoundTrips input)
    (taken : stepGateway serde registry gateway event =
      some (next, actions)) :
    InStep serde
      (history ++ (putBy ⟨gateway, event, actions, next⟩).toList) next := by
  cases event with
  | putConfig uuid input updatedAt written =>
      exact inStep.putConfig (roundTrips uuid input updatedAt written rfl)
        taken
  | send => simpa [putBy] using inStep.send taken
  | receive now => simpa [putBy] using inStep.receive taken
  | guard event => simpa [putBy] using inStep.guard taken

end Step

theorem InStep.run {serde : SerdeJson} {registry : TunnelRegistry PeerId}
    {start finish : NuxGateway PeerId}
    {trace : List (GatewayTransition PeerId)}
    {history : List ConfigNodeGuard} (inStep : InStep serde history start)
    (run : Run (stepGateway serde registry) start trace finish)
    (roundTrips : WritesRoundTrip serde trace) :
    InStep serde (history ++ putConfigs trace) finish := by
  induction run with
  | start => simpa [putConfigs] using inStep
  | snoc prior taken induction =>
      rename_i trace state event actions next
      have before := induction fun transition member =>
        roundTrips transition (List.mem_append_left _ member)
      have after := before.step
        (roundTrips ⟨state, event, actions, next⟩ List.mem_concat_self) taken
      rw [List.append_assoc] at after
      rw [putConfigs, List.filterMap_append]
      exact after

end NuxAuth.Gateway
