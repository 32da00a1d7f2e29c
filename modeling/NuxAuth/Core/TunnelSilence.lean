import NuxAuth.Core.GuardLoop

/-!
# What a stream tells its peer

A peer sees the bytes written to its stream and the end of it; the local
network sees the connections.  Both are read off the log of a play of
`serve_io` against an environment: whatever the peer sends, how the services
that are reached behave, and when the header timer fires.

A registry enters the play through one decision only.  Registries that decide
alike for the services a session may use are played alike, whatever else they
expose.
-/

namespace NuxAuth.Core

open NuxAuth.Lib.FiniteTable
open NuxAuth.Lib.RecordedRun

/-! ## `serve_io` on the wire -/

/-- A serve task at work or over. -/
inductive ServePhase where
  | serving (stage : ServeStage)
  | returned (outcome : TunnelOutcome)

/-- What a serve task resumes with, or relays. -/
inductive WireEvent where
  | resume (event : ServeEvent)
  /-- `copy_bidirectional` read these bytes from the local service. -/
  | relay (chunk : List UInt8)

/-- What it does, and the bytes that it relays. -/
inductive WireAction where
  | served (action : ServeAction)
  | relayed (chunk : List UInt8)

/-- One recorded step of a serve task. -/
abbrev WireTransition := Transition ServePhase WireEvent WireAction

variable {PeerId : Type} [DecidableEq PeerId]

/-- A serve task with the relay it ends in. -/
def serveWire (registry : TunnelRegistry PeerId) (peer : PeerId)
    (roles : List String) : Step ServePhase WireEvent WireAction
  | .serving stage, .resume event =>
      match serveIo registry peer roles stage event with
      | none => none
      | some (.continues next actions) =>
          some (.serving next, actions.map .served)
      | some (.ends outcome) => some (.returned outcome, [])
  | .serving (.relaying header service), .relay chunk =>
      some (.serving (.relaying header service), [.relayed chunk])
  | _, _ => none

/-- A play of `serve_io` from the moment the stream is handed to it. -/
def serveStream (registry : TunnelRegistry PeerId) (peer : PeerId)
    (roles : List String)
    (environment : List (WireEvent × List WireAction) → WireEvent)
    (rounds : Nat) : List WireTransition × ServePhase :=
  play (serveWire registry peer roles) environment
    (.serving (.readingHeader [])) rounds

/-! ## What is observed -/

/-- The bytes an action writes to the stream of the peer. -/
def WireAction.toPeer : WireAction → List UInt8
  | .served (.connect _ _) => []
  | .served (.writeAck _) => [tunnelAck]
  | .relayed chunk => chunk

/-- The address that is connected to. -/
def WireAction.opened : WireAction → Option SocketAddr
  | .served (.connect _ target) => some target
  | .served (.writeAck _) => none
  | .relayed _ => none

/-- All that the peer receives. -/
def bytesToPeer (trace : List WireTransition) : List UInt8 :=
  (trace.flatMap Transition.actions).flatMap WireAction.toPeer

/-- All addresses that are connected to. -/
def connectionsOpened (trace : List WireTransition) : List SocketAddr :=
  (trace.flatMap Transition.actions).filterMap WireAction.opened

/-- What the task has returned. -/
def ServePhase.outcome : ServePhase → Option TunnelOutcome
  | .serving _ => none
  | .returned outcome => some outcome

/-- The acknowledgement was handed to the stream of the peer. -/
def Acknowledges (transition : WireTransition) : Prop :=
  ∃ service, .served (.writeAck service) ∈ transition.actions

/-! ## Registries that decide alike -/

/-- The roles of the session allow the service. -/
def Usable (roles : List String) (service : ExposedService) : Prop :=
  ∀ role, service.requiredRole = some role → role ∈ roles

/-- The registries agree on what the session may use, and may differ in every
other service. -/
structure AgreesOnUsable (registry other : TunnelRegistry PeerId)
    (peer : PeerId) (roles : List String) : Prop where
  attested : registry.expectedBinarySha256 peer =
    other.expectedBinarySha256 peer
  usable : ∀ name service, Usable roles service →
    (registry.get name = some service ↔ other.get name = some service)

section Alike

variable {registry other : TunnelRegistry PeerId} {peer : PeerId}
    {roles : List String}

theorem AgreesOnUsable.admitHeader
    (agrees : AgreesOnUsable registry other peer roles)
    (header : TunnelHeader) :
    admitHeader registry peer roles header =
      admitHeader other peer roles header := by
  apply Option.ext
  intro service
  rw [admitHeader_eq_some_iff, admitHeader_eq_some_iff, agrees.attested]
  constructor
  · rintro ⟨exposed, usable, declared⟩
    exact ⟨(agrees.usable _ _ usable).mp exposed, usable, declared⟩
  · rintro ⟨exposed, usable, declared⟩
    exact ⟨(agrees.usable _ _ usable).mpr exposed, usable, declared⟩

/-- The registry is looked at nowhere else. -/
theorem AgreesOnUsable.serveIo
    (agrees : AgreesOnUsable registry other peer roles) (stage : ServeStage)
    (event : ServeEvent) :
    serveIo registry peer roles stage event =
      serveIo other peer roles stage event := by
  unfold NuxAuth.Core.serveIo
  simp only [agrees.admitHeader]

theorem AgreesOnUsable.serveWire
    (agrees : AgreesOnUsable registry other peer roles) :
    serveWire registry peer roles = serveWire other peer roles := by
  funext phase event
  unfold NuxAuth.Core.serveWire
  simp only [agrees.serveIo]

end Alike

/-! ## Silence before the acknowledgement -/

section Silence

variable {registry : TunnelRegistry PeerId} {peer : PeerId}
    {roles : List String} {trace : List WireTransition} {phase : ServePhase}

/-- The task got as far as its acknowledgement. -/
def ServePhase.Past : ServePhase → Prop
  | .serving (.acknowledging _ _) => True
  | .serving (.relaying _ _) => True
  | _ => False

/-- A transition before the acknowledgement writes nothing to the peer, and
gets past it only by acknowledging. -/
theorem serveWire_silent {next : ServePhase} {event : WireEvent}
    {actions : List WireAction} (before : ¬ phase.Past)
    (taken : serveWire registry peer roles phase event = some (next, actions))
    (quiet : ¬ Acknowledges ⟨phase, event, actions, next⟩) :
    ¬ next.Past ∧ actions.flatMap WireAction.toPeer = [] := by
  unfold serveWire at taken
  split at taken
  · rename_i stage resumption
    split at taken
    · cases taken
    · rename_i after logged continued
      cases taken
      rcases serveIo_continues continued with
        ⟨received, chunk, rfl, -, rfl, rfl⟩ |
        ⟨received, chunk, header, rest, service, rfl, -, -, -, rfl, rfl⟩ |
        ⟨header, service, rfl, -, rfl, rfl⟩ | ⟨header, service, rfl, -, rfl, rfl⟩
      · exact ⟨not_false, rfl⟩
      · exact ⟨not_false, rfl⟩
      · exact absurd ⟨header.service, List.mem_singleton_self _⟩ quiet
      · exact absurd trivial before
    · cases taken
      exact ⟨not_false, rfl⟩
  · exact absurd trivial before
  · cases taken

/-- Nothing is written to the peer in a run without an acknowledgement. -/
theorem silent_of_run
    (run : Run (serveWire registry peer roles) (.serving (.readingHeader []))
      trace phase)
    (quiet : ∀ transition ∈ trace, ¬ Acknowledges transition) :
    ¬ phase.Past ∧ bytesToPeer trace = [] := by
  induction run with
  | start => exact ⟨not_false, rfl⟩
  | snoc prior taken induction =>
      rcases induction fun transition member =>
          quiet transition (List.mem_append_left _ member) with
        ⟨before, nothing⟩
      rcases serveWire_silent before taken (quiet _ List.mem_concat_self) with
        ⟨after, silent⟩
      refine ⟨after, ?_⟩
      rw [bytesToPeer, List.flatMap_append, List.flatMap_append,
        List.flatMap_singleton, silent, List.append_nil]
      exact nothing

end Silence

/--
Against the same environment, registries that agree on what the session may
use write the same bytes to the peer, open the same connections and end alike;
and nothing is written to the peer before the acknowledgement.
-/
theorem unusable_services_hidden {registry other : TunnelRegistry PeerId}
    {peer : PeerId} {roles : List String}
    (agrees : AgreesOnUsable registry other peer roles)
    (environment : List (WireEvent × List WireAction) → WireEvent)
    (rounds : Nat) :
    let first := serveStream registry peer roles environment rounds
    let second := serveStream other peer roles environment rounds
    bytesToPeer first.1 = bytesToPeer second.1 ∧
      connectionsOpened first.1 = connectionsOpened second.1 ∧
      first.2.outcome = second.2.outcome ∧
      ((∀ transition ∈ first.1, ¬ Acknowledges transition) →
        bytesToPeer first.1 = []) := by
  intro first second
  have same : first = second := by
    simp only [first, second, serveStream, agrees.serveWire]
  rw [← same]
  refine ⟨rfl, rfl, rfl, ?_⟩
  intro quiet
  exact (silent_of_run (run_of_play _ environment _ rounds) quiet).2

section SmallPlay

open SmallGuard

/-- The small Guard, with a service its peer may not use. -/
def withVault : TunnelRegistry BytePeer :=
  registry.expose "vault" (.loopback 22) (some "root")

/-- The peer asks for the service, which answers with one byte. -/
def opens (history : List (WireEvent × List WireAction)) : WireEvent :=
  [.resume (.received frame), .resume .connected,
    .resume .acknowledged].getD history.length (.relay [7])

theorem unusable_services_hidden_vault :
    bytesToPeer (serveStream registry peer ["reader"] opens 4).1 =
        bytesToPeer (serveStream withVault peer ["reader"] opens 4).1 ∧
      bytesToPeer (serveStream registry peer ["reader"] opens 4).1 =
        [tunnelAck, 7] := by
  have agrees : AgreesOnUsable registry withVault peer ["reader"] := by
    refine ⟨rfl, ?_⟩
    intro name service usable
    change _ ↔ (registry.services.insert "vault" _).lookup name = some service
    rw [lookup_insert_eq_ite]
    split
    · rename_i same
      subst same
      constructor
      · intro absent
        cases absent
      · intro stored
        cases stored
        simp [Usable] at usable
    · exact Iff.rfl
  have hidden := unusable_services_hidden agrees opens 4
  refine ⟨hidden.1, ?_⟩
  decide +kernel

end SmallPlay

end NuxAuth.Core
