import NuxAuth.Lib.FairBehavior
import NuxAuth.Core.ClientSession

/-!
# Reconnection

An iteration of the reconnection loop starts with a dial, and libp2p refuses to
dial a peer that is connected or being dialed.  A failed call of `authenticate`
can leave the connection it used behind, as the swarm sees it; then the dial is
refused, the loop sleeps without polling, and the swarm never learns that the
connection is gone.  An iteration that begins on a disconnected view is not
exposed to this, and succeeds if the Guard lets it.
-/

namespace NuxAuth.Core

open NuxAuth.Lib.FairBehavior NuxAuth.Lib.RecordedRun

variable {PeerId : Type} [DecidableEq PeerId]

/-! ## The vocabulary -/

/-- The swarm sees no connection to the Guard and no dial under way. -/
def Disconnected (guard : PeerId) (session : ClientSession PeerId) : Prop :=
  session.swarm.established guard = 0 ∧ session.swarm.dialing guard = 0

/--
The iteration runs `authenticate`: it dials and polls, and the poll that
returns the connection sends the first request.
-/
def RunsAuthenticate (sign : List UInt8 → Option (List UInt8))
    (guard : PeerId) (session : ClientSession PeerId) : Prop :=
  ∃ next actions backoff,
    runClientSession sign guard session .redial = some (next, actions) ∧
      next.phase = .authenticating backoff .connecting ∧
        ∀ now, ∃ connected requestId,
          runClientSession sign guard next
              (.polled (.connectionEstablished guard true) now) =
            some (connected, [.sent guard requestId .handshakeInit])

/-- Whatever happens from here on, the swarm is never polled again. -/
def Wedged (sign : List UInt8 → Option (List UInt8)) (guard : PeerId)
    (session : ClientSession PeerId) : Prop :=
  ∀ trace finish,
    Run (runClientSession sign guard) session trace finish →
      ∀ transition ∈ trace, ∀ event now,
        transition.event ≠ .polled event now

/-- No event of the Guard makes the running call fail. -/
def Cooperates (guard : PeerId) (session : ClientSession PeerId) :
    SessionEvent PeerId → Prop
  | .polled (.outgoingConnectionError peer _) _ => peer ≠ some guard
  | .polled (.connectionClosed peer _) _ => peer ≠ guard
  | .polled (.outboundFailure peer requestId) _ =>
      ∀ backoff answered,
        session.phase = .authenticating backoff
          (.awaiting requestId answered) → peer ≠ guard
  | .polled (.response peer requestId response) _ =>
      ∀ backoff answered,
        session.phase = .authenticating backoff
          (.awaiting requestId answered) → peer = guard →
            match answered with
            | false => ∃ nonce timestamp,
                response = .challenge nonce timestamp
            | true => ∃ roles, response = .accessGranted roles
  | _ => True

section Behaviors

variable {sign : List UInt8 → Option (List UInt8)} {guard : PeerId}

/-- The loop is scheduled: it does not stay at a step it can take. -/
structure Scheduled
    (behavior : Behavior (runClientSession sign guard)) : Prop where
  redials : ∀ backoff,
    WeaklyFair behavior (fun session => session.phase = .redialing backoff)
      (· = .redial)
  wakes : ∀ backoff,
    WeaklyFair behavior (fun session => session.phase = .sleeping backoff)
      (· = .wake)

/-- The Guard accepts the connection, and answers every request well. -/
structure Grants (behavior : Behavior (runClientSession sign guard)) :
    Prop where
  cooperates : ∀ moment,
    Cooperates guard (behavior.state moment) (behavior.event moment)
  accepts : ∀ backoff,
    WeaklyFair behavior
      (fun session => session.phase = .authenticating backoff .connecting)
      (fun event => ∃ dialer now,
        event = .polled (.connectionEstablished guard dialer) now)
  answers : ∀ backoff requestId answered,
    WeaklyFair behavior
      (fun session => session.phase =
        .authenticating backoff (.awaiting requestId answered))
      (fun event => ∃ response now,
        event = .polled (.response guard requestId response) now)

end Behaviors

/-- If the Guard grants the handshake from here on, the loop returns. -/
def ReturnsIfGranted (sign : List UInt8 → Option (List UInt8))
    (guard : PeerId) (session : ClientSession PeerId) : Prop :=
  ∀ behavior : Behavior (runClientSession sign guard),
    behavior.state 0 = session → Scheduled behavior → Grants behavior →
      ∃ moment, (behavior.state moment).phase = .serving

/-! ## An iteration on a disconnected view -/

section Disconnected

variable {sign : List UInt8 → Option (List UInt8)} {guard : PeerId}
    {session : ClientSession PeerId} {backoff : Nat}

/-- The dial is made, and the call waits for the connection. -/
theorem redial_of_disconnected
    (disconnected : Disconnected guard session) :
    session.redial guard backoff =
      ({ session with
          swarm := { session.swarm with
            dialing := Function.update session.swarm.dialing guard 1 }
          phase := .authenticating backoff .connecting },
        [.dialed guard]) := by
  simp [ClientSession.redial, Swarm.dial_of_disconnected disconnected,
    authenticate, Swarm.isConnected, disconnected.1]

theorem runsAuthenticate_of_disconnected
    (head : session.phase = .redialing backoff)
    (disconnected : Disconnected guard session) :
    RunsAuthenticate sign guard session := by
  have taken : runClientSession sign guard session .redial =
      some (session.redial guard backoff) := by
    simp only [runClientSession, head]
  rw [redial_of_disconnected disconnected] at taken
  refine ⟨_, _, backoff, taken, rfl, ?_⟩
  intro now
  simp [runClientSession, ClientSession.poll, Swarm.observe,
    resumeAuthenticate, Swarm.sendRequest]

/-! ## A call the Guard grants -/

variable {behavior : Behavior (runClientSession sign guard)}

theorem leadsTo_connecting (scheduled : Scheduled behavior) :
    LeadsTo behavior
      (fun session => session.phase = .redialing backoff ∧
        Disconnected guard session)
      (fun session => session.phase = .authenticating backoff .connecting)
    := by
  refine leadsTo_of_weaklyFair
    ((scheduled.redials backoff).weaken fun state here => here.1) ?_
  rintro moment ⟨head, disconnected⟩
  rcases step_of_redialing head (behavior.taken moment) with
    ⟨-, dialed⟩ | ⟨other, cancelled⟩
  · rw [redial_of_disconnected disconnected] at dialed
    exact Or.inr (congrArg (fun result => result.1.phase) dialed)
  · rw [other, cancelled]
    exact Or.inl ⟨⟨head, disconnected⟩, by simp⟩

theorem leadsTo_awaiting (grants : Grants behavior) :
    LeadsTo behavior
      (fun session => session.phase = .authenticating backoff .connecting)
      (fun session => ∃ requestId,
        session.phase = .authenticating backoff (.awaiting requestId false))
    := by
  refine leadsTo_of_weaklyFair (grants.accepts backoff) ?_
  intro moment running
  have cooperates := grants.cooperates moment
  rcases step_of_authenticating running (behavior.taken moment) with
    ⟨event, now, swarm, same, -, phase⟩ | ⟨same, cancelled⟩
  · rw [same] at cooperates ⊢
    cases event with
    | connectionEstablished peer dialer =>
        by_cases here : peer = guard
        · simp only [resumeAuthenticate, if_pos here] at phase
          exact Or.inr ⟨_, phase⟩
        · simp only [resumeAuthenticate, if_neg here] at phase
          exact Or.inl ⟨phase, by simpa using here⟩
    | outgoingConnectionError peer error =>
        simp only [resumeAuthenticate, if_neg cooperates] at phase
        exact Or.inl ⟨phase, by simp⟩
    | _ => exact Or.inl ⟨phase, by simp⟩
  · rw [same, cancelled]
    exact Or.inl ⟨running, by simp⟩

/-- While a response is awaited, only that response changes the phase. -/
theorem awaiting_step (grants : Grants behavior) {requestId : Nat}
    {answered : Bool} {moment : Nat}
    (running : (behavior.state moment).phase =
      .authenticating backoff (.awaiting requestId answered)) :
    ((behavior.state (moment + 1)).phase =
          .authenticating backoff (.awaiting requestId answered) ∧
        ¬ ∃ response now, behavior.event moment =
          .polled (.response guard requestId response) now) ∨
      ∃ response now swarm, behavior.event moment =
          .polled (.response guard requestId response) now ∧
        (behavior.state (moment + 1)).phase =
          ClientSession.afterProgress backoff
            (resumeAuthenticate sign guard swarm now
              (.awaiting requestId answered)
              (.response guard requestId response)).2.1 := by
  have cooperates := grants.cooperates moment
  rcases step_of_authenticating running (behavior.taken moment) with
    ⟨event, now, swarm, same, -, phase⟩ | ⟨same, cancelled⟩
  · rw [same] at cooperates ⊢
    cases event with
    | response peer other response =>
        by_cases here : peer = guard ∧ other = requestId
        · rcases here with ⟨rfl, rfl⟩
          exact Or.inr ⟨response, now, swarm, rfl, phase⟩
        · simp only [resumeAuthenticate, if_neg here] at phase
          refine Or.inl ⟨phase, ?_⟩
          rintro ⟨_, _, same⟩
          cases same
          exact here ⟨rfl, rfl⟩
    | outboundFailure peer other =>
        have here : ¬ (peer = guard ∧ other = requestId) := by
          rintro ⟨rfl, rfl⟩
          exact cooperates backoff answered running rfl
        simp only [resumeAuthenticate, if_neg here] at phase
        exact Or.inl ⟨phase, by simp⟩
    | connectionClosed peer numEstablished =>
        simp only [resumeAuthenticate, if_neg cooperates] at phase
        exact Or.inl ⟨phase, by simp⟩
    | _ => exact Or.inl ⟨phase, by simp⟩
  · rw [same, cancelled]
    exact Or.inl ⟨running, by simp⟩

theorem leadsTo_answered (signs : ∀ payload, (sign payload).isSome)
    (grants : Grants behavior) {requestId : Nat} :
    LeadsTo behavior
      (fun session => session.phase =
        .authenticating backoff (.awaiting requestId false))
      (fun session => ∃ requestId,
        session.phase = .authenticating backoff (.awaiting requestId true))
    := by
  refine leadsTo_of_weaklyFair (grants.answers backoff requestId false) ?_
  intro moment running
  rcases awaiting_step grants running with
    waits | ⟨response, now, swarm, same, phase⟩
  · exact Or.inl waits
  · have cooperates := grants.cooperates moment
    rw [same] at cooperates
    rcases cooperates backoff false running rfl with
      ⟨nonce, timestamp, rfl⟩
    rcases Option.isSome_iff_exists.mp
      (signs (challengePayload nonce now).toList) with ⟨signature, signed⟩
    simp only [resumeAuthenticate, answerChallenge, signed, and_self, if_true,
      Option.map_some] at phase
    exact Or.inr ⟨_, phase⟩

theorem leadsTo_serving (grants : Grants behavior) {requestId : Nat} :
    LeadsTo behavior
      (fun session => session.phase =
        .authenticating backoff (.awaiting requestId true))
      (fun session => session.phase = .serving) := by
  refine leadsTo_of_weaklyFair (grants.answers backoff requestId true) ?_
  intro moment running
  rcases awaiting_step grants running with
    waits | ⟨response, now, swarm, same, phase⟩
  · exact Or.inl waits
  · have cooperates := grants.cooperates moment
    rw [same] at cooperates
    rcases cooperates backoff true running rfl with ⟨roles, rfl⟩
    simp only [resumeAuthenticate, and_self, if_true] at phase
    exact Or.inr phase

theorem returnsIfGranted_of_disconnected
    (signs : ∀ payload, (sign payload).isSome)
    (head : session.phase = .redialing backoff)
    (disconnected : Disconnected guard session) :
    ReturnsIfGranted sign guard session := by
  rintro behavior rfl scheduled grants
  have connects : LeadsTo behavior
      (fun session => session.phase = .redialing backoff ∧
        Disconnected guard session)
      (fun session => ∃ requestId,
        session.phase = .authenticating backoff (.awaiting requestId false))
      := (leadsTo_connecting scheduled).trans (leadsTo_awaiting grants)
  have answers := connects.trans
    (.ofExists fun _ => leadsTo_answered signs grants)
  have serves := answers.trans (.ofExists fun _ => leadsTo_serving grants)
  rcases serves 0 ⟨head, disconnected⟩ with ⟨moment, -, serving⟩
  exact ⟨moment, serving⟩

end Disconnected

/-! ## An iteration on any other view -/

/-- Between two attempts, on a view that refuses the next dial. -/
structure Refused (guard : PeerId) (session : ClientSession PeerId) :
    Prop where
  between : ∃ backoff,
    session.phase = .redialing backoff ∨ session.phase = .sleeping backoff
  near : ¬ Disconnected guard session

section Refused

variable {sign : List UInt8 → Option (List UInt8)} {guard : PeerId}
    {session next : ClientSession PeerId} {backoff : Nat}

theorem redial_of_not_disconnected (near : ¬ Disconnected guard session) :
    session.redial guard backoff =
      ({ session with phase := .sleeping backoff }, [.dialRefused guard]) := by
  simp [ClientSession.redial, Swarm.dial_of_not_disconnected near]

/-- A refused loop stays refused, and does not poll. -/
theorem Refused.step (refused : Refused guard session)
    {event : SessionEvent PeerId} {actions : List (ClientAction PeerId)}
    (taken : runClientSession sign guard session event =
      some (next, actions)) :
    Refused guard next ∧ ∀ polled now, event ≠ .polled polled now := by
  rcases refused with ⟨⟨backoff, head | asleep⟩, near⟩
  · rcases step_of_redialing head taken with ⟨rfl, dialed⟩ | ⟨rfl, rfl⟩
    · rw [redial_of_not_disconnected near] at dialed
      cases dialed
      exact ⟨⟨⟨backoff, Or.inr rfl⟩, near⟩, by simp⟩
    · exact ⟨⟨⟨backoff, Or.inl head⟩, near⟩, by simp⟩
  · rcases step_of_sleeping asleep taken with ⟨rfl, rfl⟩ | ⟨rfl, rfl⟩
    · exact ⟨⟨⟨_, Or.inl rfl⟩, near⟩, by simp⟩
    · exact ⟨⟨⟨backoff, Or.inr asleep⟩, near⟩, by simp⟩

theorem Refused.wedged (refused : Refused guard session) :
    Wedged sign guard session := by
  intro trace finish run
  have both : Refused guard finish ∧
      ∀ transition ∈ trace, ∀ event now,
        transition.event ≠ .polled event now := by
    induction run with
    | start => exact ⟨refused, by simp⟩
    | snoc prior taken induction =>
        rcases induction with ⟨before, silent⟩
        rcases before.step taken with ⟨after, quiet⟩
        refine ⟨after, ?_⟩
        intro transition member
        rcases List.mem_append.mp member with old | new
        · exact silent transition old
        · rw [List.mem_singleton.mp new]
          exact quiet
  exact both.2

/-- Dial, sleep, dial again: what a refused loop does if nobody interferes. -/
def refusedNext (session : ClientSession PeerId) : ClientSession PeerId :=
  match session.phase with
  | .redialing backoff => { session with phase := .sleeping backoff }
  | .sleeping backoff =>
      { session with phase := .redialing (min (backoff * 2) maxBackoff) }
  | _ => session

/-- Dial and wake in turn, without a poll in between. -/
def refusedPick (session : ClientSession PeerId) : SessionEvent PeerId :=
  match session.phase with
  | .redialing _ => .redial
  | _ => .wake

/-- All dials are refused. -/
def refusedLog (guard : PeerId) (session : ClientSession PeerId) :
    List (ClientAction PeerId) :=
  match session.phase with
  | .redialing _ => [.dialRefused guard]
  | _ => []

theorem Refused.scheduled (refused : Refused guard session) :
    runClientSession sign guard session (refusedPick session) =
        some (refusedNext session, refusedLog guard session) ∧
      Refused guard (refusedNext session) := by
  rcases refused with ⟨⟨backoff, head | asleep⟩, near⟩
  · rw [refusedPick, refusedNext, refusedLog, head]
    constructor
    · simp only [runClientSession, head, redial_of_not_disconnected near]
    · exact ⟨⟨backoff, Or.inr rfl⟩, near⟩
  · rw [refusedPick, refusedNext, refusedLog, asleep]
    constructor
    · simp only [runClientSession, asleep]
    · exact ⟨⟨_, Or.inl rfl⟩, near⟩

/-- The Guard has nothing to refuse: the loop asks it for nothing. -/
theorem Refused.not_returnsIfGranted (refused : Refused guard session) :
    ¬ ReturnsIfGranted sign guard session := by
  intro returns
  let behavior : Behavior (runClientSession sign guard) :=
    ofScheduler refusedNext refusedPick (refusedLog guard) (Refused guard)
      (fun _ refused => refused.scheduled) session refused
  have stays : ∀ moment, Refused guard (behavior.state moment) := by
    intro moment
    induction moment with
    | zero => exact refused
    | succ moment induction => exact (induction.step (behavior.taken moment)).1
  have apart : ∀ moment backoff stage,
      (behavior.state moment).phase ≠ .authenticating backoff stage := by
    intro moment backoff stage running
    rcases (stays moment).between with ⟨other, head | asleep⟩
    · rw [running] at head
      cases head
    · rw [running] at asleep
      cases asleep
  have scheduled : Scheduled behavior := by
    constructor
    · intro backoff moment always
      refine ⟨moment, le_rfl, ?_⟩
      show refusedPick (behavior.state moment) = .redial
      rw [refusedPick, always moment le_rfl]
    · intro backoff moment always
      refine ⟨moment, le_rfl, ?_⟩
      show refusedPick (behavior.state moment) = .wake
      rw [refusedPick, always moment le_rfl]
  have grants : Grants behavior := by
    constructor
    · intro moment
      show Cooperates guard (behavior.state moment)
        (refusedPick (behavior.state moment))
      rw [refusedPick]
      split
      · trivial
      · trivial
    · intro backoff moment always
      exact absurd (always moment le_rfl) (apart moment _ _)
    · intro backoff requestId answered moment always
      exact absurd (always moment le_rfl) (apart moment _ _)
  rcases returns behavior rfl scheduled grants with ⟨moment, serving⟩
  rcases (stays moment).between with ⟨backoff, head | asleep⟩
  · rw [serving] at head
    cases head
  · rw [serving] at asleep
    cases asleep

theorem Refused.not_runsAuthenticate (refused : Refused guard session) :
    ¬ RunsAuthenticate sign guard session := by
  rintro ⟨next, actions, backoff, taken, running, -⟩
  rcases (refused.step taken).1.between with ⟨other, head | asleep⟩
  · rw [running] at head
    cases head
  · rw [running] at asleep
    cases asleep

end Refused

/-- A loop about to authenticate polls the connection it waits for. -/
theorem RunsAuthenticate.not_wedged
    {sign : List UInt8 → Option (List UInt8)} {guard : PeerId}
    {session : ClientSession PeerId}
    (runs : RunsAuthenticate sign guard session) :
    ¬ Wedged sign guard session := by
  intro wedged
  rcases runs with ⟨next, actions, backoff, dials, -, polls⟩
  rcases polls 0 with ⟨connected, requestId, polled⟩
  have run := (Run.start.snoc dials).snoc polled
  exact wedged _ _ run _ List.mem_concat_self _ _ rfl

/--
In every run, an iteration of the reconnection loop runs `authenticate`, is not
wedged, and returns if the Guard grants the handshake from then on, exactly
when it begins on a disconnected view.
-/
theorem iteration_progresses_iff
    {sign : List UInt8 → Option (List UInt8)} {guard : PeerId}
    (signs : ∀ payload, (sign payload).isSome)
    {start finish : ClientSession PeerId}
    {trace : List (SessionTransition PeerId)}
    (run : Run (runClientSession sign guard) start trace finish)
    {iteration : SessionTransition PeerId} (member : iteration ∈ trace)
    (begins : iteration.event = .redial) :
    (RunsAuthenticate sign guard iteration.before ↔
        Disconnected guard iteration.before) ∧
      (¬ Wedged sign guard iteration.before ↔
        Disconnected guard iteration.before) ∧
        (ReturnsIfGranted sign guard iteration.before ↔
          Disconnected guard iteration.before) := by
  rcases List.append_of_mem member with ⟨earlier, later, rfl⟩
  rcases run.transition with ⟨-, taken, -⟩
  have head : ∃ backoff, iteration.before.phase = .redialing backoff := by
    rw [begins] at taken
    simp only [runClientSession] at taken
    split at taken
    · rename_i backoff head
      exact ⟨backoff, head⟩
    · cases taken
  rcases head with ⟨backoff, head⟩
  by_cases disconnected : Disconnected guard iteration.before
  · have runs : RunsAuthenticate sign guard iteration.before :=
      runsAuthenticate_of_disconnected head disconnected
    exact ⟨iff_of_true runs disconnected,
      iff_of_true runs.not_wedged disconnected,
      iff_of_true
        (returnsIfGranted_of_disconnected signs head disconnected)
        disconnected⟩
  · have refused : Refused guard iteration.before :=
      ⟨⟨backoff, Or.inl head⟩, disconnected⟩
    exact ⟨iff_of_false refused.not_runsAuthenticate disconnected,
      iff_of_false (fun awake => awake refused.wedged) disconnected,
      iff_of_false refused.not_returnsIfGranted disconnected⟩

section SmallSession

/-- A session that serves over one connection to the small peer. -/
def smallSession : ClientSession BytePeer where
  swarm := {
    established := fun _ => 1
    dialing := fun _ => 0
    nextRequestId := 0 }
  phase := .serving
  cancelled := false

/-- The client signs as its identity does. -/
def smallSign (payload : List UInt8) : Option (List UInt8) :=
  some ((⟨2⟩ : BytePeer).sign payload)

/-- The Guard that it calls. -/
def smallGuard : BytePeer := ⟨1⟩

/-- The connection is lost, redialed, and the challenge answered. -/
def reconnects : List (SessionEvent BytePeer) :=
  [.polled (.connectionClosed smallGuard 0) 0, .redial,
    .polled (.connectionEstablished smallGuard true) 0,
    .polled (.response smallGuard 0
      (.challenge (Vector.replicate nonceLen 7) 0)) 0]

theorem iteration_progresses_iff_small :
    ∃ trace finish,
      Run (runClientSession smallSign smallGuard) smallSession trace finish ∧
      trace.map Transition.event = reconnects ∧
      ∃ iteration ∈ trace, iteration.event = .redial ∧
        ReturnsIfGranted smallSign smallGuard iteration.before := by
  have computed : (execute (runClientSession smallSign smallGuard)
      smallSession reconnects).any
      (fun result =>
        decide (∃ iteration ∈ result.1, iteration.event = .redial ∧
          iteration.before.swarm.established smallGuard = 0 ∧
            iteration.before.swarm.dialing smallGuard = 0)) = true := by
    decide +kernel
  rcases exists_run_of_any computed with ⟨trace, finish, run, events, observed⟩
  rcases of_decide_eq_true observed with
    ⟨iteration, member, begins, disconnected⟩
  have signs : ∀ payload, (smallSign payload).isSome := fun _ => rfl
  have progresses := iteration_progresses_iff signs run member begins
  exact ⟨trace, finish, run, events, iteration, member, begins,
    progresses.2.2.mpr disconnected⟩

/--
The Guard rejects the answer in silence: the failed request is reported before
the closed connection, and the next iteration begins on a view that still has
the connection.
-/
def rejectedInSilence : List (SessionEvent BytePeer) :=
  reconnects ++ [.polled (.outboundFailure smallGuard 1) 0, .wake]

theorem silent_rejection_wedges :
    ∃ trace finish backoff,
      Run (runClientSession smallSign smallGuard) smallSession trace finish ∧
      trace.map Transition.event = rejectedInSilence ∧
      finish.phase = .redialing backoff ∧
      ¬ RunsAuthenticate smallSign smallGuard finish ∧
      Wedged smallSign smallGuard finish ∧
      ¬ ReturnsIfGranted smallSign smallGuard finish := by
  have computed : (execute (runClientSession smallSign smallGuard)
      smallSession rejectedInSilence).any
      (fun result =>
        decide (result.2.phase = .redialing 2) &&
          decide (result.2.swarm.established smallGuard = 1)) = true := by
    decide +kernel
  rcases exists_run_of_any computed with ⟨trace, finish, run, events, observed⟩
  simp only [Bool.and_eq_true, decide_eq_true_eq] at observed
  rcases observed with ⟨head, connected⟩
  have refused : Refused smallGuard finish := by
    refine ⟨⟨2, Or.inl head⟩, ?_⟩
    rintro ⟨apart, -⟩
    rw [connected] at apart
    cases apart
  exact ⟨trace, finish, 2, run, events, head, refused.not_runsAuthenticate,
    refused.wedged, refused.not_returnsIfGranted⟩

end SmallSession

end NuxAuth.Core
