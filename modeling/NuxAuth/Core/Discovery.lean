import NuxAuth.Core.Client

/-!
# Discovering a Guard and dialing it

`discover_and_dial` asks the rendezvous point who is registered under a
namespace and goes through the addresses it is given, one dial at a time.  A
dial that gets no answer within its time is given up but not cancelled: it stays
pending, and libp2p refuses every further dial to that peer until the swarm has
returned its outcome.  An address whose dial is refused is passed over.
-/

namespace NuxAuth.Core

open NuxAuth.Lib.RecordedRun

/-! ## Dials with their addresses -/

/-- The view of the swarm, with the address of each dial of the client: of the
one under way, and of the one a peer was connected by last. -/
structure Dials (PeerId Multiaddr : Type) where
  swarm : Swarm PeerId
  pending : PeerId → Option Multiaddr
  via : PeerId → Option Multiaddr

/-- What a rendezvous point knows of a peer. -/
structure Registration (PeerId Multiaddr : Type) where
  peer : PeerId
  addresses : List Multiaddr

variable {PeerId Multiaddr : Type} [DecidableEq PeerId]

namespace Dials

/-- A peer that `Swarm::dial` does not refuse. -/
def Free (dials : Dials PeerId Multiaddr) (peer : PeerId) : Prop :=
  dials.swarm.established peer = 0 ∧ dials.swarm.dialing peer = 0

omit [DecidableEq PeerId] in
instance (dials : Dials PeerId Multiaddr) (peer : PeerId) :
    Decidable (dials.Free peer) :=
  inferInstanceAs (Decidable (_ ∧ _))

/-- `redial_known_peer`: the dial is refused where one is under way or a
connection is there. -/
def redialKnownPeer (dials : Dials PeerId Multiaddr) (peer : PeerId)
    (addr : Multiaddr) : Option (Dials PeerId Multiaddr) :=
  (dials.swarm.dial peer).map fun swarm =>
    { dials with
      swarm := swarm
      pending := Function.update dials.pending peer (some addr) }

/-- The address of a dial goes where the poll says the dial went. -/
def observe (dials : Dials PeerId Multiaddr) (event : SwarmEvent PeerId) :
    Option (Dials PeerId Multiaddr) :=
  (dials.swarm.observe event).map fun swarm =>
    match event with
    | .connectionEstablished peer true =>
        { swarm := swarm
          pending := Function.update dials.pending peer none
          via := Function.update dials.via peer (dials.pending peer) }
    | .connectionEstablished peer false =>
        { dials with
          swarm := swarm
          via := Function.update dials.via peer none }
    | .outgoingConnectionError (some peer) _ =>
        { dials with
          swarm := swarm
          pending := Function.update dials.pending peer none }
    -- a behaviour dials with addresses of its own
    | .dialing peer =>
        { dials with
          swarm := swarm
          pending := Function.update dials.pending peer none }
    | _ => { dials with swarm := swarm }

theorem redialKnownPeer_of_free {dials : Dials PeerId Multiaddr}
    {peer : PeerId} (addr : Multiaddr) (free : dials.Free peer) :
    dials.redialKnownPeer peer addr =
      some { dials with
        swarm := { dials.swarm with
          dialing := Function.update dials.swarm.dialing peer 1 }
        pending := Function.update dials.pending peer (some addr) } := by
  rw [redialKnownPeer, Swarm.dial_of_disconnected free]
  rfl

theorem redialKnownPeer_of_not_free {dials : Dials PeerId Multiaddr}
    {peer : PeerId} (addr : Multiaddr) (busy : ¬ dials.Free peer) :
    dials.redialKnownPeer peer addr = none := by
  rw [redialKnownPeer, Swarm.dial_of_not_disconnected busy]
  rfl

end Dials

/-! ## The call -/

/-- The three texts of `NuxError::Network`. -/
inductive DiscoveryError where
  /-- "découverte rendezvous échouée" -/
  | discoverFailed (error : String)
  /-- "aucun pair enregistré" -/
  | noneRegistered
  /-- "aucun pair joignable" -/
  | noneReachable
deriving DecidableEq

/-- Where the call stands; `rest` is what the two loops still have to do. -/
inductive DiscoveryPhase (PeerId Multiaddr : Type) where
  | discovering
  | composing (rest : List (PeerId × Multiaddr))
  /-- in `wait_for_peer` -/
  | waiting (peer : PeerId) (addr : Multiaddr)
      (rest : List (PeerId × Multiaddr))
  | returned (result : Except DiscoveryError (PeerId × Multiaddr))

/-- The dials and the phase of `connect_any`. -/
structure Discovery (PeerId Multiaddr : Type) where
  dials : Dials PeerId Multiaddr
  phase : DiscoveryPhase PeerId Multiaddr

/-- What the discovery waits for. -/
inductive DiscoveryEvent (PeerId Multiaddr : Type) where
  | discovered (registrations : List (Registration PeerId Multiaddr))
  | discoverFailed (error : String)
  | polled (event : SwarmEvent PeerId)
  /-- the turn of the next address, or the end of the loops -/
  | turn
  /-- `PER_ADDRESS_DIAL_TIMEOUT` is over -/
  | timeout

/-- A dial, made or refused. -/
inductive DiscoveryAction (PeerId Multiaddr : Type) where
  | dialed (peer : PeerId) (addr : Multiaddr)
  | dialRefused (peer : PeerId) (addr : Multiaddr)
deriving DecidableEq

omit [DecidableEq PeerId] in
/-- The addresses in the order in which the nested loops reach them. -/
def attempts (registrations : List (Registration PeerId Multiaddr)) :
    List (PeerId × Multiaddr) :=
  registrations.flatMap fun registration =>
    registration.addresses.map fun addr => (registration.peer, addr)

/-- The phase after a poll of `wait_for_peer`. -/
def afterWait (peer : PeerId) (addr : Multiaddr)
    (rest : List (PeerId × Multiaddr)) :
    SwarmEvent PeerId → DiscoveryPhase PeerId Multiaddr
  | .connectionEstablished other _ =>
      if other = peer then .returned (.ok (peer, addr))
      else .waiting peer addr rest
  | .outgoingConnectionError other _ =>
      if other = some peer then .composing rest else .waiting peer addr rest
  | _ => .waiting peer addr rest

/-- One step of `discover_and_dial`, its request to the rendezvous point made. -/
def discoverAndDial :
    Step (Discovery PeerId Multiaddr) (DiscoveryEvent PeerId Multiaddr)
      (DiscoveryAction PeerId Multiaddr) :=
  fun state event =>
    match state.phase, event with
    | .discovering, .discovered registrations =>
        if registrations.isEmpty then
          some ({ state with phase := .returned (.error .noneRegistered) }, [])
        else
          some ({ state with phase := .composing (attempts registrations) }, [])
    | .discovering, .discoverFailed error =>
        some ({ state with
          phase := .returned (.error (.discoverFailed error)) }, [])
    | .discovering, .polled event =>
        (state.dials.observe event).map fun dials =>
          ({ state with dials := dials }, [])
    | .composing [], .turn =>
        some ({ state with phase := .returned (.error .noneReachable) }, [])
    | .composing ((peer, addr) :: rest), .turn =>
        match state.dials.redialKnownPeer peer addr with
        | none =>
            some ({ state with phase := .composing rest },
              [.dialRefused peer addr])
        | some dials =>
            some (⟨dials, .waiting peer addr rest⟩, [.dialed peer addr])
    | .waiting peer addr rest, .polled event =>
        (state.dials.observe event).map fun dials =>
          (⟨dials, afterWait peer addr rest event⟩, [])
    -- the wait is dropped, the dial goes on
    | .waiting _ _ rest, .timeout =>
        some ({ state with phase := .composing rest }, [])
    | _, _ => none

/-- The discovery is asked for, and nothing has come back yet. -/
def Discovery.start (dials : Dials PeerId Multiaddr) :
    Discovery PeerId Multiaddr where
  dials := dials
  phase := .discovering

/-- One recorded step of the discovery. -/
abbrev DiscoveryTransition (PeerId Multiaddr : Type) :=
  Transition (Discovery PeerId Multiaddr) (DiscoveryEvent PeerId Multiaddr)
    (DiscoveryAction PeerId Multiaddr)

/-! ## What the call promises -/

omit [DecidableEq PeerId] in
/-- The address whose turn a transition is. -/
def turnOf (transition : DiscoveryTransition PeerId Multiaddr) :
    Option (PeerId × Multiaddr) :=
  match transition.event, transition.before.phase with
  | .turn, .composing (attempt :: _) => some attempt
  | _, _ => none

omit [DecidableEq PeerId] in
/-- What the rendezvous point answered, if this transition is its answer. -/
def answerOf (transition : DiscoveryTransition PeerId Multiaddr) :
    Option (List (Registration PeerId Multiaddr)) :=
  match transition.event with
  | .discovered registrations => some registrations
  | _ => none

omit [DecidableEq PeerId] in
/--
A call that found nobody reachable started a dial to every address it was
given; one that returned a peer is connected to it by the dial to the address
it returned.
-/
structure TriesEverything
    (trace : List (DiscoveryTransition PeerId Multiaddr))
    (finish : Discovery PeerId Multiaddr) : Prop where
  unreachable : finish.phase = .returned (.error .noneReachable) →
    ∀ transition ∈ trace, ∀ registrations,
      answerOf transition = some registrations →
        ∀ attempt ∈ attempts registrations,
          .dialed attempt.1 attempt.2 ∈ trace.flatMap Transition.actions
  reached : ∀ peer addr, finish.phase = .returned (.ok (peer, addr)) →
    finish.dials.swarm.isConnected peer = true ∧
      finish.dials.via peer = some addr

omit [DecidableEq PeerId] in
/--
No turn of an address is lost to an earlier dial: where the peer is connected
or still being dialed, the same address has a turn when it is not.  And the
call does not end with a connection that its peer opened.
-/
structure NoTurnLost
    (trace : List (DiscoveryTransition PeerId Multiaddr))
    (finish : Discovery PeerId Multiaddr) : Prop where
  unreachable : finish.phase = .returned (.error .noneReachable) →
    ∀ transition ∈ trace, ∀ attempt, turnOf transition = some attempt →
      ¬ transition.before.dials.Free attempt.1 →
        ∃ again ∈ trace, turnOf again = some attempt ∧
          again.before.dials.Free attempt.1
  reached : ∀ result, finish.phase = .returned (.ok result) →
    ∀ last, trace.getLast? = some last → ∀ peer,
      last.event ≠ .polled (.connectionEstablished peer false)

/-! ## What a step can do -/

/-- The steps of the call, by their effect. -/
inductive DiscoveryEffect :
    Discovery PeerId Multiaddr → DiscoveryEvent PeerId Multiaddr →
      List (DiscoveryAction PeerId Multiaddr) →
        Discovery PeerId Multiaddr → Prop where
  | answered {dials : Dials PeerId Multiaddr}
      (registrations : List (Registration PeerId Multiaddr)) :
      DiscoveryEffect ⟨dials, .discovering⟩ (.discovered registrations) []
        ⟨dials, .composing (attempts registrations)⟩
  | failed {dials : Dials PeerId Multiaddr}
      {event : DiscoveryEvent PeerId Multiaddr} {error : DiscoveryError}
      (other : error ≠ .noneReachable) :
      DiscoveryEffect ⟨dials, .discovering⟩ event []
        ⟨dials, .returned (.error error)⟩
  | idle {dials next : Dials PeerId Multiaddr} {event : SwarmEvent PeerId} :
      DiscoveryEffect ⟨dials, .discovering⟩ (.polled event) []
        ⟨next, .discovering⟩
  | ended {dials : Dials PeerId Multiaddr} :
      DiscoveryEffect ⟨dials, .composing []⟩ .turn []
        ⟨dials, .returned (.error .noneReachable)⟩
  | refused {dials : Dials PeerId Multiaddr} {peer : PeerId}
      {addr : Multiaddr} {rest : List (PeerId × Multiaddr)}
      (busy : ¬ dials.Free peer) :
      DiscoveryEffect ⟨dials, .composing ((peer, addr) :: rest)⟩ .turn
        [.dialRefused peer addr] ⟨dials, .composing rest⟩
  | dialed {dials next : Dials PeerId Multiaddr} {peer : PeerId}
      {addr : Multiaddr} {rest : List (PeerId × Multiaddr)}
      (free : dials.Free peer)
      (pending : next.pending peer = some addr)
      (dialing : next.swarm.dialing peer ≠ 0) :
      DiscoveryEffect ⟨dials, .composing ((peer, addr) :: rest)⟩ .turn
        [.dialed peer addr] ⟨next, .waiting peer addr rest⟩
  | waited {dials next : Dials PeerId Multiaddr} {peer : PeerId}
      {addr : Multiaddr} {rest : List (PeerId × Multiaddr)}
      {event : SwarmEvent PeerId}
      (seen : dials.observe event = some next) :
      DiscoveryEffect ⟨dials, .waiting peer addr rest⟩ (.polled event) []
        ⟨next, afterWait peer addr rest event⟩
  | timedOut {dials : Dials PeerId Multiaddr} {peer : PeerId}
      {addr : Multiaddr} {rest : List (PeerId × Multiaddr)} :
      DiscoveryEffect ⟨dials, .waiting peer addr rest⟩ .timeout []
        ⟨dials, .composing rest⟩

theorem discoverAndDial_effect {state next : Discovery PeerId Multiaddr}
    {event : DiscoveryEvent PeerId Multiaddr}
    {actions : List (DiscoveryAction PeerId Multiaddr)}
    (taken : discoverAndDial state event = some (next, actions)) :
    DiscoveryEffect state event actions next := by
  rcases state with ⟨dials, phase⟩
  cases phase with
  | discovering =>
      cases event with
      | discovered registrations =>
          simp only [discoverAndDial] at taken
          split at taken
          · cases taken
            exact .failed (by simp)
          · cases taken
            exact .answered registrations
      | discoverFailed error =>
          cases taken
          exact .failed (by simp)
      | polled event =>
          rcases Option.map_eq_some_iff.mp taken with ⟨seen, -, same⟩
          cases same
          exact .idle
      | turn => cases taken
      | timeout => cases taken
  | composing rest =>
      cases event with
      | turn =>
          cases rest with
          | nil =>
              cases taken
              exact .ended
          | cons attempt rest =>
              rcases attempt with ⟨peer, addr⟩
              simp only [discoverAndDial] at taken
              by_cases free : dials.Free peer
              · rw [Dials.redialKnownPeer_of_free addr free] at taken
                cases taken
                exact .dialed free (by simp) (by simp)
              · rw [Dials.redialKnownPeer_of_not_free addr free] at taken
                cases taken
                exact .refused free
      | discovered registrations => cases rest <;> cases taken
      | discoverFailed error => cases rest <;> cases taken
      | polled event => cases rest <;> cases taken
      | timeout => cases rest <;> cases taken
  | waiting peer addr rest =>
      cases event with
      | polled event =>
          rcases Option.map_eq_some_iff.mp taken with ⟨seen, observed, same⟩
          cases same
          exact .waited observed
      | timeout =>
          cases taken
          exact .timedOut
      | discovered registrations => cases taken
      | discoverFailed error => cases taken
      | turn => cases taken
  | returned result => cases event <;> cases taken

/-- A dial is started in a turn of its address, if the peer is free. -/
theorem DiscoveryEffect.dialed_iff {state next : Discovery PeerId Multiaddr}
    {event : DiscoveryEvent PeerId Multiaddr}
    {actions : List (DiscoveryAction PeerId Multiaddr)}
    (effect : DiscoveryEffect state event actions next) {peer : PeerId}
    {addr : Multiaddr} :
    .dialed peer addr ∈ actions ↔
      turnOf ⟨state, event, actions, next⟩ = some (peer, addr) ∧
        state.dials.Free peer := by
  cases effect with
  | answered registrations => simp [turnOf]
  | @failed dials event error other => cases event <;> simp [turnOf]
  | idle => simp [turnOf]
  | ended => simp [turnOf]
  | refused busy =>
      simp only [turnOf, List.mem_singleton, reduceCtorEq, false_iff,
        Option.some.injEq, Prod.mk.injEq]
      rintro ⟨⟨rfl, -⟩, free⟩
      exact busy free
  | dialed free pending dialing =>
      simp only [turnOf, List.mem_singleton, DiscoveryAction.dialed.injEq,
        Option.some.injEq, Prod.mk.injEq]
      constructor
      · rintro ⟨rfl, rfl⟩
        exact ⟨⟨rfl, rfl⟩, free⟩
      · rintro ⟨⟨rfl, rfl⟩, -⟩
        exact ⟨rfl, rfl⟩
  | waited seen => simp [turnOf]
  | timedOut => simp [turnOf]

/-! ## Every address gets its turn -/

omit [DecidableEq PeerId] in
/-- The addresses whose turn has come, in order. -/
def turns (trace : List (DiscoveryTransition PeerId Multiaddr)) :
    List (PeerId × Multiaddr) :=
  trace.filterMap turnOf

omit [DecidableEq PeerId] in
/-- The addresses still to come, once they are known. -/
def DiscoveryPhase.remaining :
    DiscoveryPhase PeerId Multiaddr → Option (List (PeerId × Multiaddr))
  | .composing rest => some rest
  | .waiting _ _ rest => some rest
  | .returned (.error .noneReachable) => some []
  | _ => none

omit [DecidableEq PeerId] in
/-- The turns so far and the addresses to come are those of the answer. -/
structure Covers (trace : List (DiscoveryTransition PeerId Multiaddr))
    (state : Discovery PeerId Multiaddr) : Prop where
  unanswered : state.phase = .discovering →
    turns trace = [] ∧ ∀ transition ∈ trace, answerOf transition = none
  answered : ∀ rest, state.phase.remaining = some rest →
    ∀ transition ∈ trace, ∀ registrations,
      answerOf transition = some registrations →
        turns trace ++ rest = attempts registrations
  known : ∀ rest, state.phase.remaining = some rest →
    ∃ transition ∈ trace, ∃ registrations,
      answerOf transition = some registrations

omit [DecidableEq PeerId] in
theorem turns_snoc (trace : List (DiscoveryTransition PeerId Multiaddr))
    (last : DiscoveryTransition PeerId Multiaddr) :
    turns (trace ++ [last]) = turns trace ++ (turnOf last).toList := by
  rw [turns, List.filterMap_append]
  cases turn : turnOf last with
  | none => simp [turns, turn]
  | some attempt => simp [turns, turn]

omit [DecidableEq PeerId] in
/-- A step after the answer moves at most one address to the turns. -/
theorem Covers.move {trace : List (DiscoveryTransition PeerId Multiaddr)}
    {last : DiscoveryTransition PeerId Multiaddr}
    (covers : Covers trace last.before)
    {before : List (PeerId × Multiaddr)}
    (known : last.before.phase.remaining = some before)
    (silent : answerOf last = none)
    (past : last.after.phase ≠ .discovering)
    (moved : ∀ rest, last.after.phase.remaining = some rest →
      (turnOf last).toList ++ rest = before) :
    Covers (trace ++ [last]) last.after := by
  constructor
  · intro discovering
    exact absurd discovering past
  · intro rest remaining transition member registrations answer
    rw [turns_snoc, List.append_assoc, moved rest remaining]
    rcases List.mem_append.mp member with old | new
    · exact covers.answered before known transition old registrations answer
    · rw [List.mem_singleton.mp new, silent] at answer
      cases answer
  · intro rest remaining
    rcases covers.known before known with ⟨transition, member, answer⟩
    exact ⟨transition, List.mem_append_left _ member, answer⟩

omit [DecidableEq PeerId] in
/-- Before the answer nothing is known, and nobody had a turn. -/
theorem Covers.undecided {trace : List (DiscoveryTransition PeerId Multiaddr)}
    {last : DiscoveryTransition PeerId Multiaddr}
    (covers : Covers trace last.before)
    (discovering : last.before.phase = .discovering)
    (turnless : turnOf last = none)
    (silent : last.after.phase = .discovering → answerOf last = none)
    (unknown : last.after.phase.remaining = none) :
    Covers (trace ++ [last]) last.after := by
  rcases covers.unanswered discovering with ⟨idle, unanswered⟩
  constructor
  · intro still
    rw [turns_snoc, turnless, idle]
    refine ⟨rfl, ?_⟩
    intro transition member
    rcases List.mem_append.mp member with old | new
    · exact unanswered transition old
    · rw [List.mem_singleton.mp new]
      exact silent still
  · intro rest remaining
    rw [unknown] at remaining
    cases remaining
  · intro rest remaining
    rw [unknown] at remaining
    cases remaining

/-- How a wait ends: with the connection, with the failure of the dial, or not
yet. -/
theorem afterWait_cases (peer : PeerId) (addr : Multiaddr)
    (rest : List (PeerId × Multiaddr)) (event : SwarmEvent PeerId) :
    (∃ dialer, event = .connectionEstablished peer dialer ∧
        afterWait peer addr rest event = .returned (.ok (peer, addr))) ∨
      (∃ error, event = .outgoingConnectionError (some peer) error ∧
        afterWait peer addr rest event = .composing rest) ∨
      ((∀ dialer, event ≠ .connectionEstablished peer dialer) ∧
        (∀ error, event ≠ .outgoingConnectionError (some peer) error) ∧
          afterWait peer addr rest event = .waiting peer addr rest) := by
  cases event with
  | connectionEstablished other dialer =>
      by_cases here : other = peer
      · subst here
        exact Or.inl ⟨dialer, rfl, if_pos rfl⟩
      · refine Or.inr (Or.inr ⟨?_, by simp, if_neg here⟩)
        intro _ same
        exact here (SwarmEvent.connectionEstablished.inj same).1
  | outgoingConnectionError other error =>
      by_cases here : other = some peer
      · subst here
        exact Or.inr (Or.inl ⟨error, rfl, if_pos rfl⟩)
      · refine Or.inr (Or.inr ⟨by simp, ?_, if_neg here⟩)
        intro _ same
        exact here (SwarmEvent.outgoingConnectionError.inj same).1
  | _ => exact Or.inr (Or.inr ⟨by simp, by simp, rfl⟩)

theorem remaining_afterWait {peer : PeerId} {addr : Multiaddr}
    {rest left : List (PeerId × Multiaddr)} {event : SwarmEvent PeerId}
    (remaining : (afterWait peer addr rest event).remaining = some left) :
    left = rest := by
  rcases afterWait_cases peer addr rest event with
    ⟨-, -, ended⟩ | ⟨-, -, ended⟩ | ⟨-, -, ended⟩
  · rw [ended] at remaining
    cases remaining
  · rw [ended] at remaining
    exact (Option.some.inj remaining).symm
  · rw [ended] at remaining
    exact (Option.some.inj remaining).symm

theorem afterWait_ne_discovering {peer : PeerId} {addr : Multiaddr}
    {rest : List (PeerId × Multiaddr)} {event : SwarmEvent PeerId} :
    afterWait peer addr rest event ≠ .discovering := by
  rcases afterWait_cases peer addr rest event with
    ⟨-, -, ended⟩ | ⟨-, -, ended⟩ | ⟨-, -, ended⟩
  · rw [ended]
    simp
  · rw [ended]
    simp
  · rw [ended]
    simp

theorem Covers.step {trace : List (DiscoveryTransition PeerId Multiaddr)}
    {state next : Discovery PeerId Multiaddr}
    {event : DiscoveryEvent PeerId Multiaddr}
    {actions : List (DiscoveryAction PeerId Multiaddr)}
    (covers : Covers trace state)
    (effect : DiscoveryEffect state event actions next) :
    Covers (trace ++ [⟨state, event, actions, next⟩]) next := by
  cases effect with
  | answered registrations =>
      rcases covers.unanswered rfl with ⟨idle, unanswered⟩
      constructor
      · intro discovering
        cases discovering
      · intro rest remaining transition member other answer
        cases remaining
        rcases List.mem_append.mp member with old | new
        · rw [unanswered transition old] at answer
          cases answer
        · rw [List.mem_singleton.mp new] at answer
          cases answer
          rw [turns_snoc, idle]
          rfl
      · intro rest remaining
        exact ⟨_, List.mem_concat_self, registrations, rfl⟩
  | @failed dials event error other =>
      refine covers.undecided rfl ?_ (by simp) ?_
      · cases event <;> rfl
      · cases error with
        | noneReachable => exact absurd rfl other
        | discoverFailed error => rfl
        | noneRegistered => rfl
  | idle => exact covers.undecided rfl rfl (fun _ => rfl) rfl
  | ended =>
      refine covers.move rfl rfl (by simp) ?_
      intro rest remaining
      cases remaining
      rfl
  | refused busy =>
      refine covers.move rfl rfl (by simp) ?_
      intro rest remaining
      cases remaining
      rfl
  | dialed free pending dialing =>
      refine covers.move rfl rfl (by simp) ?_
      intro rest remaining
      cases remaining
      rfl
  | waited seen =>
      refine covers.move rfl rfl afterWait_ne_discovering ?_
      intro rest remaining
      rw [remaining_afterWait remaining]
      rfl
  | timedOut =>
      refine covers.move rfl rfl (by simp) ?_
      intro rest remaining
      cases remaining
      rfl

theorem covers_of_run {dials : Dials PeerId Multiaddr}
    {trace : List (DiscoveryTransition PeerId Multiaddr)}
    {finish : Discovery PeerId Multiaddr}
    (run : Run discoverAndDial (.start dials) trace finish) :
    Covers trace finish := by
  refine run.history ⟨fun _ => ⟨rfl, by simp⟩, ?_, ?_⟩ ?_
  · intro rest remaining
    cases remaining
  · intro rest remaining
    cases remaining
  · intro trace state event next actions prior covers taken
    exact covers.step (discoverAndDial_effect taken)

/-- In a call that gave up, every address has had a turn. -/
theorem exists_turn {dials : Dials PeerId Multiaddr}
    {trace : List (DiscoveryTransition PeerId Multiaddr)}
    {finish : Discovery PeerId Multiaddr}
    (run : Run discoverAndDial (.start dials) trace finish)
    (gaveUp : finish.phase = .returned (.error .noneReachable))
    {transition : DiscoveryTransition PeerId Multiaddr}
    (member : transition ∈ trace)
    {registrations : List (Registration PeerId Multiaddr)}
    (answer : answerOf transition = some registrations)
    {attempt : PeerId × Multiaddr}
    (listed : attempt ∈ attempts registrations) :
    ∃ turn ∈ trace, turnOf turn = some attempt := by
  have covered := (covers_of_run run).answered [] (by rw [gaveUp]; rfl)
    transition member registrations answer
  rw [List.append_nil] at covered
  rw [← covered] at listed
  exact List.mem_filterMap.mp listed

/-- What a run dialed, it dialed in a turn of a free peer. -/
theorem dialed_mem_iff {dials : Dials PeerId Multiaddr}
    {trace : List (DiscoveryTransition PeerId Multiaddr)}
    {finish : Discovery PeerId Multiaddr}
    (run : Run discoverAndDial (.start dials) trace finish) {peer : PeerId}
    {addr : Multiaddr} :
    .dialed peer addr ∈ trace.flatMap Transition.actions ↔
      ∃ turn ∈ trace, turnOf turn = some (peer, addr) ∧
        turn.before.dials.Free peer := by
  rw [List.mem_flatMap]
  refine exists_congr fun turn => and_congr_right fun member => ?_
  rcases List.append_of_mem member with ⟨earlier, later, rfl⟩
  rcases run.transition with ⟨-, taken, -⟩
  exact (discoverAndDial_effect taken).dialed_iff

/-! ## What a wait is waiting for -/

/-- While a peer is waited for, the dial under way to it is the one made. -/
def AwaitsItsDial (state : Discovery PeerId Multiaddr) : Prop :=
  ∀ peer addr rest, state.phase = .waiting peer addr rest →
    state.dials.pending peer = some addr ∧
      state.dials.swarm.dialing peer ≠ 0

/-- A dial under way stays so until a poll says how it ended. -/
theorem Dials.observe_pending {dials next : Dials PeerId Multiaddr}
    {peer : PeerId} {addr : Multiaddr} {event : SwarmEvent PeerId}
    (seen : dials.observe event = some next)
    (opened : ∀ dialer, event ≠ .connectionEstablished peer dialer)
    (failed : ∀ error, event ≠ .outgoingConnectionError (some peer) error)
    (pending : dials.pending peer = some addr)
    (dialing : dials.swarm.dialing peer ≠ 0) :
    next.pending peer = some addr ∧ next.swarm.dialing peer ≠ 0 := by
  rcases Option.map_eq_some_iff.mp seen with ⟨swarm, observed, same⟩
  cases event with
  | connectionEstablished other dialer =>
      have apart : peer ≠ other := fun same => opened dialer (same ▸ rfl)
      rcases Option.ite_none_left_eq_some.mp observed with ⟨-, view⟩
      cases view
      cases dialer with
      | true =>
          cases same
          simp [apart, pending, dialing]
      | false =>
          cases same
          simp [apart, pending, dialing]
  | outgoingConnectionError other error =>
      cases other with
      | none =>
          cases observed
          cases same
          exact ⟨pending, dialing⟩
      | some other =>
          have apart : peer ≠ other := fun same => failed error (same ▸ rfl)
          rcases Option.ite_none_left_eq_some.mp observed with ⟨-, view⟩
          cases view
          cases same
          simp [apart, pending, dialing]
  | dialing dialed =>
      rcases Option.ite_none_right_eq_some.mp observed with ⟨free, view⟩
      have apart : peer ≠ dialed := fun same => dialing (same ▸ free.2)
      cases view
      cases same
      simp [apart, pending, dialing]
  | connectionClosed closed numEstablished =>
      rcases Option.ite_none_right_eq_some.mp observed with ⟨-, view⟩
      cases view
      cases same
      exact ⟨pending, dialing⟩
  | _ =>
      cases observed
      cases same
      exact ⟨pending, dialing⟩

theorem awaitsItsDial_afterWait {dials next : Dials PeerId Multiaddr}
    {peer : PeerId} {addr : Multiaddr}
    {rest : List (PeerId × Multiaddr)} {event : SwarmEvent PeerId}
    (seen : dials.observe event = some next)
    (pending : dials.pending peer = some addr)
    (dialing : dials.swarm.dialing peer ≠ 0) :
    AwaitsItsDial ⟨next, afterWait peer addr rest event⟩ := by
  intro other address left waits
  rcases afterWait_cases peer addr rest event with
    ⟨-, -, ended⟩ | ⟨-, -, ended⟩ | ⟨opened, failed, ended⟩
  · rw [ended] at waits
    cases waits
  · rw [ended] at waits
    cases waits
  · rw [ended] at waits
    cases waits
    exact Dials.observe_pending seen opened failed pending dialing

theorem awaitsItsDial_of_run {dials : Dials PeerId Multiaddr}
    {trace : List (DiscoveryTransition PeerId Multiaddr)}
    {finish : Discovery PeerId Multiaddr}
    (run : Run discoverAndDial (.start dials) trace finish) :
    AwaitsItsDial finish := by
  refine run.invariant (fun _ _ _ waits => by cases waits) ?_
  intro state event next actions awaits taken
  cases discoverAndDial_effect taken with
  | dialed free pending dialing =>
      rintro peer addr rest ⟨⟩
      exact ⟨pending, dialing⟩
  | waited seen =>
      rcases awaits _ _ _ rfl with ⟨pending, dialing⟩
      exact awaitsItsDial_afterWait seen pending dialing
  | _ =>
      intro peer addr rest waits
      cases waits

/-- A wait that succeeds ends with the connection of the peer waited for. -/
theorem afterWait_eq_ok {peer : PeerId} {addr : Multiaddr}
    {rest : List (PeerId × Multiaddr)} {event : SwarmEvent PeerId}
    {result : PeerId × Multiaddr}
    (reached : afterWait peer addr rest event = .returned (.ok result)) :
    result = (peer, addr) ∧ ∃ dialer, event =
      .connectionEstablished peer dialer := by
  rcases afterWait_cases peer addr rest event with
    ⟨dialer, opened, ended⟩ | ⟨-, -, ended⟩ | ⟨-, -, ended⟩
  · rw [ended] at reached
    cases reached
    exact ⟨rfl, dialer, opened⟩
  · rw [ended] at reached
    cases reached
  · rw [ended] at reached
    cases reached

/-- The last step of a call that returned a peer, and what it leaves. -/
theorem last_of_reached {dials : Dials PeerId Multiaddr}
    {trace : List (DiscoveryTransition PeerId Multiaddr)}
    {finish : Discovery PeerId Multiaddr}
    (run : Run discoverAndDial (.start dials) trace finish)
    {peer : PeerId} {addr : Multiaddr}
    (reached : finish.phase = .returned (.ok (peer, addr))) :
    ∃ last dialer, trace.getLast? = some last ∧
      last.event = .polled (.connectionEstablished peer dialer) ∧
      finish.dials.swarm.isConnected peer = true ∧
      finish.dials.via peer = if dialer then some addr else none := by
  cases run with
  | start => cases reached
  | @snoc trace state event actions next prior taken =>
      rcases finish with ⟨seen, phase⟩
      have awaits := awaitsItsDial_of_run prior
      cases discoverAndDial_effect taken with
      | failed other => cases reached
      | @waited dials _ waited addr rest event observed =>
          rcases afterWait_eq_ok reached with ⟨same, dialer, rfl⟩
          cases same
          have pending : dials.pending peer = some addr :=
            (awaits _ _ _ rfl).1
          refine ⟨_, dialer, List.getLast?_concat, rfl, ?_⟩
          rcases Option.map_eq_some_iff.mp observed with ⟨swarm, view, after⟩
          rcases Option.ite_none_left_eq_some.mp view with ⟨-, opened⟩
          cases opened
          cases dialer with
          | true =>
              cases after
              simp [Swarm.isConnected, pending]
          | false =>
              cases after
              simp [Swarm.isConnected]
      | _ => cases reached

/--
A call tries everything it is given, and ends with the connection it dialed,
exactly when no turn of an address is lost.
-/
theorem discovery_tries_everything_iff (dials : Dials PeerId Multiaddr)
    {trace : List (DiscoveryTransition PeerId Multiaddr)}
    {finish : Discovery PeerId Multiaddr}
    (run : Run discoverAndDial (.start dials) trace finish) :
    TriesEverything trace finish ↔ NoTurnLost trace finish := by
  constructor
  · intro tries
    constructor
    · intro gaveUp turn taken attempt same _
      have covers := covers_of_run run
      have ended : finish.phase.remaining = some [] := by
        rw [gaveUp]
        rfl
      rcases covers.known [] ended with
        ⟨transition, member, registrations, answer⟩
      have covered := covers.answered [] ended transition member
        registrations answer
      have listed : attempt ∈ attempts registrations := by
        rw [← covered, List.append_nil]
        exact List.mem_filterMap.mpr ⟨turn, taken, same⟩
      exact (dialed_mem_iff run).mp (tries.unreachable gaveUp transition
        member registrations answer attempt listed)
    · rintro ⟨peer, addr⟩ reached last isLast other inbound
      rcases last_of_reached run reached with
        ⟨final, dialer, isFinal, event, -, via⟩
      rw [isLast] at isFinal
      cases isFinal
      rw [event] at inbound
      cases inbound
      rw [(tries.reached peer addr reached).2] at via
      cases via
  · intro kept
    constructor
    · intro gaveUp transition member registrations answer attempt listed
      rcases exists_turn run gaveUp member answer listed with
        ⟨turn, taken, same⟩
      apply (dialed_mem_iff run).mpr
      by_cases free : turn.before.dials.Free attempt.1
      · exact ⟨turn, taken, same, free⟩
      · exact kept.unreachable gaveUp turn taken attempt same free
    · intro peer addr reached
      rcases last_of_reached run reached with
        ⟨last, dialer, isLast, event, connected, via⟩
      refine ⟨connected, ?_⟩
      cases dialer with
      | true => exact via
      | false => exact absurd event (kept.reached _ reached last isLast peer)

section SmallCalls

/-- One Guard with two addresses. -/
def twoAddresses : List (Registration BytePeer String) :=
  [⟨⟨1⟩, ["/ip4/192.0.2.1/tcp/4588", "/ip4/198.51.100.7/tcp/4588"]⟩]

/-- No connection and no dial. -/
def noDials : Dials BytePeer String where
  swarm := ⟨fun _ => 0, fun _ => 0, 0⟩
  pending _ := none
  via _ := none

/-- The call with what becomes of the first dial, the second one refused. -/
def triesTwo (first : DiscoveryEvent BytePeer String) :
    List (DiscoveryEvent BytePeer String) :=
  [.discovered twoAddresses, .turn, first, .turn,
    .polled (.outgoingConnectionError (some ⟨1⟩) "refused"), .turn]

/-- The discovery found nobody to connect to. -/
def unreachable (phase : DiscoveryPhase BytePeer String) : Bool :=
  match phase with
  | .returned (.error .noneReachable) => true
  | _ => false

theorem phase_of_unreachable {phase : DiscoveryPhase BytePeer String}
    (ended : unreachable phase = true) :
    phase = .returned (.error .noneReachable) := by
  unfold unreachable at ended
  split at ended
  · rfl
  · cases ended

/-- Both dials fail in time, so both are made. -/
theorem discovery_tries_everything_iff_small :
    ∃ trace finish, Run discoverAndDial (.start noDials) trace finish ∧
      trace.map Transition.event =
        triesTwo (.polled (.outgoingConnectionError (some ⟨1⟩) "refused")) ∧
      finish.phase = .returned (.error .noneReachable) ∧
      TriesEverything trace finish := by
  have computed : (execute discoverAndDial (.start noDials) (triesTwo
      (.polled (.outgoingConnectionError (some ⟨1⟩) "refused")))).any
      (fun result => unreachable result.2.phase &&
        result.1.all fun transition =>
          (turnOf transition).all fun attempt =>
            decide (transition.before.dials.Free attempt.1)) = true := by
    decide +kernel
  rcases exists_run_of_any computed with
    ⟨trace, finish, run, events, observed⟩
  rw [Bool.and_eq_true, List.all_eq_true] at observed
  rcases observed with ⟨ended, free⟩
  have phase := phase_of_unreachable ended
  refine ⟨trace, finish, run, events, phase, ?_⟩
  refine (discovery_tries_everything_iff noDials run).mpr ?_
  constructor
  · intro _ transition member attempt turn busy
    have tested := free transition member
    rw [turn, Option.all_some, decide_eq_true_eq] at tested
    exact absurd tested busy
  · intro result reached
    rw [phase] at reached
    cases reached

/-- The first dial gets no answer; the second address is given up undialed,
though its dial might have been accepted. -/
def givesUpEarly : List (DiscoveryEvent BytePeer String) :=
  [.discovered twoAddresses, .turn, .timeout, .turn, .turn]

theorem timed_out_dial_hides_address :
    ∃ trace finish, Run discoverAndDial (.start noDials) trace finish ∧
      trace.map Transition.event = givesUpEarly ∧
      finish.phase = .returned (.error .noneReachable) ∧
      trace.flatMap Transition.actions =
        [.dialed ⟨1⟩ "/ip4/192.0.2.1/tcp/4588",
          .dialRefused ⟨1⟩ "/ip4/198.51.100.7/tcp/4588"] ∧
      ¬ TriesEverything trace finish := by
  have computed : (execute discoverAndDial (.start noDials)
      givesUpEarly).any
      (fun result => unreachable result.2.phase &&
        decide (result.1.flatMap Transition.actions =
          [.dialed ⟨1⟩ "/ip4/192.0.2.1/tcp/4588",
            .dialRefused ⟨1⟩ "/ip4/198.51.100.7/tcp/4588"])) = true := by
    decide +kernel
  rcases exists_run_of_any computed with
    ⟨trace, finish, run, events, observed⟩
  rw [Bool.and_eq_true, decide_eq_true_eq] at observed
  rcases observed with ⟨ended, actions⟩
  have phase := phase_of_unreachable ended
  refine ⟨trace, finish, run, events, phase, actions, ?_⟩
  intro tries
  have answered : .discovered twoAddresses ∈
      trace.map Transition.event := by
    rw [events]
    exact List.mem_cons_self
  rcases List.mem_map.mp answered with ⟨transition, member, event⟩
  have answer : answerOf transition = some twoAddresses := by
    rw [answerOf, event]
  have dialed := tries.unreachable phase transition member _ answer
    (⟨1⟩, "/ip4/198.51.100.7/tcp/4588") (by simp [attempts, twoAddresses])
  rw [actions] at dialed
  simp at dialed

end SmallCalls

end NuxAuth.Core
