import NuxAuth.Lib.FairBehavior
import NuxAuth.Core.Reconnection

/-!
# Stopping a client session

Cancelling the shutdown token ends the session only where the outer `select!`
waits.  `reauthenticate` runs inside one of its branches and does not look at
the token, so a session that is about to dial, waits for the connection or
sleeps goes on retrying; one that has its request out already may still return
to the `select!`, if the Guard grants that request.
-/

namespace NuxAuth.Core

open NuxAuth.Lib.FairBehavior NuxAuth.Lib.RecordedRun

variable {PeerId : Type} [DecidableEq PeerId]

/-! ## The vocabulary -/

/-- A new attempt: the call of `redial_known_peer`, or a first request. -/
def Retries (guard : PeerId) : ClientAction PeerId → Prop
  | .dialed peer => peer = guard
  | .dialRefused peer => peer = guard
  | .sent peer _ request => peer = guard ∧ request = .handshakeInit
  | _ => False

/-- The bounded drain has begun. -/
def SessionPhase.Stopped (phase : SessionPhase) : Prop :=
  phase = .draining ∨ phase = .ended

/-- In `reauthenticate`, with the first request of an attempt still to come. -/
inductive SessionPhase.Retrying : SessionPhase → Prop where
  | redialing (backoff : Nat) : Retrying (.redialing backoff)
  | connecting (backoff : Nat) : Retrying (.authenticating backoff .connecting)
  | sleeping (backoff : Nat) : Retrying (.sleeping backoff)

/-- In `reauthenticate`, with a request out. -/
inductive SessionPhase.Awaiting : SessionPhase → Prop where
  | mk (backoff requestId : Nat) (answered : Bool) :
      Awaiting (.authenticating backoff (.awaiting requestId answered))

section Behaviors

variable {sign : List UInt8 → Option (List UInt8)} {guard : PeerId}

/-- From this moment on there is no new attempt, and the drain begins. -/
structure StopsRetrying (behavior : Behavior (runClientSession sign guard))
    (moment : Nat) : Prop where
  quiet : ∀ later, moment ≤ later → ∀ action ∈ behavior.actions later,
    ¬ Retries guard action
  drains : ∃ later, moment ≤ later ∧
    (behavior.state later).phase.Stopped

/--
The poll returns what the session answers with a new attempt: while it serves,
that the last connection to the Guard is closed; while a request is out, an
event that makes `authenticate` fail.
-/
def Loses (sign : List UInt8 → Option (List UInt8)) (guard : PeerId)
    (session : ClientSession PeerId) : SessionEvent PeerId → Prop
  | .polled event now =>
      (session.phase = .serving ∧ event = .connectionClosed guard 0) ∨
        ∃ backoff requestId answered swarm error,
          session.phase =
              .authenticating backoff (.awaiting requestId answered) ∧
            session.swarm.observe event = some swarm ∧
            (resumeAuthenticate sign guard swarm now
              (.awaiting requestId answered) event).2.1 =
                .returns (.error error)
  | _ => False

/-- When the token may be cancelled: no attempt is on its way to its first
request, nothing is lost any more, and a request that is out is answered. -/
structure CancelledInTime
    (behavior : Behavior (runClientSession sign guard)) (moment : Nat) :
    Prop where
  outside : ¬ (behavior.state moment).phase.Retrying
  kept : ∀ later, moment ≤ later →
    ¬ Loses sign guard (behavior.state later) (behavior.event later)
  answered : ∃ later, moment ≤ later ∧
    ¬ (behavior.state later).phase.Awaiting

end Behaviors

/-! ## What a step can do -/

section Step

variable {sign : List UInt8 → Option (List UInt8)} {guard : PeerId}
    {session next : ClientSession PeerId} {event : SessionEvent PeerId}
    {actions : List (ClientAction PeerId)}

/-- The token stays cancelled. -/
theorem cancelled_step (cancelled : session.cancelled = true)
    (taken : runClientSession sign guard session event =
      some (next, actions)) :
    next.cancelled = true := by
  cases event with
  | polled event now =>
      simp only [runClientSession, ClientSession.poll] at taken
      split at taken
      · rcases Option.map_eq_some_iff.mp taken with ⟨swarm, -, same⟩
        cases same
        exact cancelled
      · rcases Option.map_eq_some_iff.mp taken with ⟨swarm, -, same⟩
        cases same
        exact cancelled
      · rcases Option.map_eq_some_iff.mp taken with ⟨swarm, -, same⟩
        cases same
        exact cancelled
      · cases taken
  | redial =>
      simp only [runClientSession] at taken
      split at taken
      · simp only [ClientSession.redial] at taken
        split at taken
        · cases taken
          exact cancelled
        · cases taken
          exact cancelled
      · cases taken
  | wake =>
      simp only [runClientSession] at taken
      split at taken
      · cases taken
        exact cancelled
      · cases taken
  | cancel =>
      cases taken
      rfl
  | stop =>
      rcases Option.ite_none_right_eq_some.mp taken with ⟨-, same⟩
      cases same
      exact cancelled
  | graceElapsed =>
      rcases Option.ite_none_right_eq_some.mp taken with ⟨-, same⟩
      cases same
      exact cancelled

/-- The token has no say before the first request: the session keeps retrying
until it makes an attempt, and then it has made one. -/
theorem step_of_retrying (retrying : session.phase.Retrying)
    (taken : runClientSession sign guard session event =
      some (next, actions)) :
    next.phase.Retrying ∨ ∃ action ∈ actions, Retries guard action := by
  rcases session with ⟨swarm, phase, cancelled⟩
  cases retrying with
  | redialing backoff =>
      rcases step_of_redialing rfl taken with ⟨-, dialed⟩ | ⟨-, rfl⟩
      · rw [ClientSession.redial] at dialed
        split at dialed
        · cases dialed
          exact Or.inr ⟨_, List.mem_singleton.mpr rfl, rfl⟩
        · cases dialed
          exact Or.inr ⟨_, List.mem_cons_self, rfl⟩
      · exact Or.inl (.redialing backoff)
  | sleeping backoff =>
      rcases step_of_sleeping rfl taken with ⟨-, rfl⟩ | ⟨-, rfl⟩
      · exact Or.inl (.redialing _)
      · exact Or.inl (.sleeping backoff)
  | connecting backoff =>
      cases event with
      | cancel =>
          cases taken
          exact Or.inl (.connecting backoff)
      | polled polled now =>
          simp only [runClientSession, ClientSession.poll] at taken
          rcases Option.map_eq_some_iff.mp taken with ⟨seen, -, same⟩
          cases same
          have resumption := resumeAuthenticate_resumption sign guard seen now
            .connecting polled
          generalize resumeAuthenticate sign guard seen now .connecting
            polled = result at resumption
          cases resumption with
          | ignored => exact Or.inl (.connecting backoff)
          | connected dialer =>
              exact Or.inr ⟨_, List.mem_singleton.mpr rfl, rfl, rfl⟩
          | failed error => exact Or.inl (.sleeping backoff)
      | redial => cases taken
      | wake => cases taken
      | stop => simp [runClientSession] at taken
      | graceElapsed => simp [runClientSession] at taken

/-- A drain goes on in silence. -/
theorem step_of_stopped (stopped : session.phase.Stopped)
    (taken : runClientSession sign guard session event =
      some (next, actions)) :
    next.phase.Stopped ∧ actions = [] := by
  rcases session with ⟨swarm, phase, cancelled⟩
  rcases stopped with rfl | rfl
  · cases event with
    | polled polled now =>
        rcases Option.map_eq_some_iff.mp taken with ⟨seen, -, same⟩
        cases same
        exact ⟨Or.inl rfl, rfl⟩
    | cancel =>
        cases taken
        exact ⟨Or.inl rfl, rfl⟩
    | graceElapsed =>
        cases taken
        exact ⟨Or.inr rfl, rfl⟩
    | redial => cases taken
    | wake => cases taken
    | stop => simp [runClientSession] at taken
  · cases event with
    | cancel =>
        cases taken
        exact ⟨Or.inr rfl, rfl⟩
    | polled polled now => cases taken
    | redial => cases taken
    | wake => cases taken
    | stop => simp [runClientSession] at taken
    | graceElapsed => simp [runClientSession] at taken

/-- Serving ends with the drain or with the loss of the connection. -/
theorem step_of_serving (serving : session.phase = .serving)
    (taken : runClientSession sign guard session event =
      some (next, actions)) :
    actions = [] ∧
      ((next.phase = .serving ∧ event ≠ .stop) ∨ next.phase.Stopped ∨
        (next.phase.Retrying ∧ Loses sign guard session event)) := by
  rcases session with ⟨swarm, phase, cancelled⟩
  subst serving
  cases event with
  | polled polled now =>
      rcases Option.map_eq_some_iff.mp taken with ⟨seen, -, same⟩
      by_cases lost : polled = .connectionClosed guard 0
      · simp only [if_pos lost] at same
        cases same
        exact ⟨rfl, Or.inr (Or.inr ⟨.redialing _, Or.inl ⟨rfl, lost⟩⟩)⟩
      · simp only [if_neg lost] at same
        cases same
        exact ⟨rfl, Or.inl ⟨rfl, by simp⟩⟩
  | cancel =>
      cases taken
      exact ⟨rfl, Or.inl ⟨rfl, by simp⟩⟩
  | stop =>
      rcases Option.ite_none_right_eq_some.mp taken with ⟨-, same⟩
      cases same
      exact ⟨rfl, Or.inr (Or.inl (Or.inl rfl))⟩
  | redial => cases taken
  | wake => cases taken
  | graceElapsed => simp [runClientSession] at taken

/-- A request that is out is answered, or the attempt fails. -/
theorem step_of_awaiting (awaiting : session.phase.Awaiting)
    (taken : runClientSession sign guard session event =
      some (next, actions)) :
    (∀ action ∈ actions, ¬ Retries guard action) ∧
      (next.phase.Awaiting ∨ next.phase = .serving ∨
        (next.phase.Retrying ∧ Loses sign guard session event)) := by
  rcases session with ⟨swarm, phase, cancelled⟩
  cases awaiting with
  | mk backoff requestId answered =>
      cases event with
      | cancel =>
          cases taken
          exact ⟨by simp, Or.inl (.mk backoff requestId answered)⟩
      | polled polled now =>
          simp only [runClientSession, ClientSession.poll] at taken
          rcases Option.map_eq_some_iff.mp taken with ⟨seen, observed, same⟩
          cases same
          have resumption := resumeAuthenticate_resumption sign guard seen now
            (.awaiting requestId answered) polled
          generalize result : resumeAuthenticate sign guard seen now
            (.awaiting requestId answered) polled = progress at resumption
          cases resumption with
          | ignored => exact ⟨by simp, Or.inl (.mk backoff _ _)⟩
          | challenged signed =>
              refine ⟨?_, Or.inl (.mk backoff _ _)⟩
              intro action member
              rw [List.mem_singleton.mp member]
              rintro ⟨-, same⟩
              cases same
          | granted roles =>
              refine ⟨?_, Or.inr (Or.inl rfl)⟩
              intro action member
              rw [List.mem_singleton.mp member]
              exact id
          | failed error =>
              refine ⟨?_, Or.inr (Or.inr ⟨.sleeping backoff, ?_⟩)⟩
              · intro action member
                rw [List.mem_singleton.mp member]
                exact id
              · exact Or.inr ⟨backoff, requestId, answered, seen, error, rfl,
                  observed, by rw [result]⟩
      | redial => cases taken
      | wake => cases taken
      | stop => simp [runClientSession] at taken
      | graceElapsed => simp [runClientSession] at taken

/-- Where the session stands: every phase is of one of four kinds. -/
theorem SessionPhase.cases (phase : SessionPhase) :
    phase = .serving ∨ phase.Retrying ∨ phase.Awaiting ∨ phase.Stopped := by
  cases phase with
  | serving => exact Or.inl rfl
  | redialing backoff => exact Or.inr (Or.inl (.redialing backoff))
  | authenticating backoff stage =>
      cases stage with
      | connecting => exact Or.inr (Or.inl (.connecting backoff))
      | awaiting requestId answered =>
          exact Or.inr (Or.inr (Or.inl (.mk backoff requestId answered)))
  | sleeping backoff => exact Or.inr (Or.inl (.sleeping backoff))
  | draining => exact Or.inr (Or.inr (Or.inr (Or.inl rfl)))
  | ended => exact Or.inr (Or.inr (Or.inr (Or.inr rfl)))

theorem SessionPhase.Retrying.not_stopped {phase : SessionPhase}
    (retrying : phase.Retrying) : ¬ phase.Stopped := by
  rintro (same | same)
  · cases same
    cases retrying
  · cases same
    cases retrying

theorem SessionPhase.Retrying.not_awaiting {phase : SessionPhase}
    (retrying : phase.Retrying) : ¬ phase.Awaiting := by
  intro awaiting
  cases awaiting
  cases retrying

theorem SessionPhase.Awaiting.not_stopped {phase : SessionPhase}
    (awaiting : phase.Awaiting) : ¬ phase.Stopped := by
  rintro (same | same)
  · cases same
    cases awaiting
  · cases same
    cases awaiting

/-- Whoever keeps clear of the retries makes none and loses nothing. -/
theorem step_of_not_retrying (outside : ¬ session.phase.Retrying)
    (taken : runClientSession sign guard session event =
      some (next, actions)) :
    (∀ action ∈ actions, ¬ Retries guard action) ∧
      (Loses sign guard session event ∨ ¬ next.phase.Retrying) := by
  rcases session.phase.cases with serving | retrying | awaiting | stopped
  · rcases step_of_serving serving taken with ⟨rfl, effect⟩
    refine ⟨by simp, ?_⟩
    rcases effect with ⟨still, -⟩ | stopped | ⟨-, loses⟩
    · right
      rw [still]
      intro retrying
      cases retrying
    · exact Or.inr fun retrying => retrying.not_stopped stopped
    · exact Or.inl loses
  · exact absurd retrying outside
  · rcases step_of_awaiting awaiting taken with ⟨quiet, effect⟩
    refine ⟨quiet, ?_⟩
    rcases effect with still | serving | ⟨-, loses⟩
    · exact Or.inr fun retrying => retrying.not_awaiting still
    · right
      rw [serving]
      intro retrying
      cases retrying
    · exact Or.inl loses
  · rcases step_of_stopped stopped taken with ⟨still, rfl⟩
    exact ⟨by simp, Or.inr fun retrying => retrying.not_stopped still⟩

/-- A loss is answered with an attempt to come. -/
theorem retrying_of_loses (loses : Loses sign guard session event)
    (taken : runClientSession sign guard session event =
      some (next, actions)) :
    next.phase.Retrying := by
  cases event with
  | polled polled now =>
      rw [runClientSession, ClientSession.poll] at taken
      rcases loses with ⟨serving, rfl⟩ |
        ⟨backoff, requestId, answered, seen, error, running, observed, fails⟩
      · rw [serving] at taken
        rcases Option.map_eq_some_iff.mp taken with ⟨swarm, -, same⟩
        cases same
        simp only [if_true]
        exact .redialing _
      · simp only [running, observed, Option.map_some] at taken
        cases taken
        simp only [fails]
        exact .sleeping backoff
  | redial => exact loses.elim
  | wake => exact loses.elim
  | cancel => exact loses.elim
  | stop => exact loses.elim
  | graceElapsed => exact loses.elim

end Step

/-! ## Whole behaviors -/

section Behaviors

variable {sign : List UInt8 → Option (List UInt8)} {guard : PeerId}
    {behavior : Behavior (runClientSession sign guard)} {moment : Nat}

theorem cancelled_later (cancelled : (behavior.state moment).cancelled = true)
    {later : Nat} (after : moment ≤ later) :
    (behavior.state later).cancelled = true := by
  induction later, after using Nat.le_induction with
  | base => exact cancelled
  | succ later after induction =>
      exact cancelled_step induction (behavior.taken later)

theorem stopped_later (stopped : (behavior.state moment).phase.Stopped)
    {later : Nat} (after : moment ≤ later) :
    (behavior.state later).phase.Stopped := by
  induction later, after using Nat.le_induction with
  | base => exact stopped
  | succ later after induction =>
      exact (step_of_stopped induction (behavior.taken later)).1

/-- A session that retries either makes an attempt or retries for ever. -/
theorem not_stopsRetrying_of_retrying
    (retrying : (behavior.state moment).phase.Retrying) :
    ¬ StopsRetrying behavior moment := by
  rintro ⟨quiet, later, after, stopped⟩
  have always : ∀ {later}, moment ≤ later →
      (behavior.state later).phase.Retrying := by
    intro later after
    induction later, after using Nat.le_induction with
    | base => exact retrying
    | succ later after induction =>
        rcases step_of_retrying induction (behavior.taken later) with
          still | ⟨action, member, attempt⟩
        · exact still
        · exact absurd attempt (quiet later after action member)
  exact (always after).not_stopped stopped

theorem StopsRetrying.later (stops : StopsRetrying behavior moment)
    {later : Nat} (after : moment ≤ later) : StopsRetrying behavior later := by
  rcases stops with ⟨quiet, drained, -, stopped⟩
  constructor
  · intro moment since
    exact quiet moment (Nat.le_trans after since)
  · rcases Nat.le_total later drained with before | since
    · exact ⟨drained, before, stopped⟩
    · exact ⟨later, le_rfl, stopped_later stopped since⟩

/-- The condition keeps the session clear of the retries. -/
theorem CancelledInTime.not_retrying
    (inTime : CancelledInTime behavior moment) {later : Nat}
    (after : moment ≤ later) :
    ¬ (behavior.state later).phase.Retrying := by
  induction later, after using Nat.le_induction with
  | base => exact inTime.outside
  | succ later after induction =>
      rcases (step_of_not_retrying induction (behavior.taken later)).2 with
        loses | outside
      · exact absurd loses (inTime.kept later after)
      · exact outside

/-- The branch of the token is taken, unless the connection is lost before. -/
theorem leadsTo_stopped
    (fair : WeaklyFair behavior
      (fun session => session.phase = .serving ∧ session.cancelled = true)
      (· = .stop)) :
    LeadsTo behavior
      (fun session => session.phase = .serving ∧ session.cancelled = true)
      (fun session => session.phase.Stopped ∨ session.phase.Retrying) := by
  refine leadsTo_of_weaklyFair fair ?_
  rintro moment ⟨serving, cancelled⟩
  have taken := behavior.taken moment
  rcases (step_of_serving serving taken).2 with
    ⟨still, other⟩ | stopped | ⟨retrying, -⟩
  · exact Or.inl ⟨⟨still, cancelled_step cancelled taken⟩, other⟩
  · exact Or.inr (Or.inl stopped)
  · exact Or.inr (Or.inr retrying)

theorem CancelledInTime.drains
    (fair : WeaklyFair behavior
      (fun session => session.phase = .serving ∧ session.cancelled = true)
      (· = .stop))
    (cancelled : (behavior.state moment).cancelled = true)
    (inTime : CancelledInTime behavior moment) :
    ∃ later, moment ≤ later ∧ (behavior.state later).phase.Stopped := by
  rcases inTime.answered with ⟨returned, after, answered⟩
  rcases (behavior.state returned).phase.cases with
    serving | retrying | awaiting | stopped
  · rcases leadsTo_stopped fair returned
        ⟨serving, cancelled_later cancelled after⟩ with
      ⟨later, since, stopped | retrying⟩
    · exact ⟨later, Nat.le_trans after since, stopped⟩
    · exact absurd retrying
        (inTime.not_retrying (Nat.le_trans after since))
  · exact absurd retrying (inTime.not_retrying after)
  · exact absurd awaiting answered
  · exact ⟨returned, after, stopped⟩

/--
From a moment at which the token is cancelled on, the session makes no new
attempt and comes to its drain, exactly when that moment is in time: no attempt
is on its way, none is provoked any more, and a request that is out is granted.
-/
theorem shutdown_stops_retrying_iff
    (behavior : Behavior (runClientSession sign guard))
    (fair : WeaklyFair behavior
      (fun session => session.phase = .serving ∧ session.cancelled = true)
      (· = .stop))
    {moment : Nat} (cancelled : (behavior.state moment).cancelled = true) :
    StopsRetrying behavior moment ↔ CancelledInTime behavior moment := by
  constructor
  · intro stops
    constructor
    · intro retrying
      exact not_stopsRetrying_of_retrying retrying stops
    · intro later after loses
      have retrying := retrying_of_loses loses (behavior.taken later)
      exact not_stopsRetrying_of_retrying retrying
        (stops.later (Nat.le_succ_of_le after))
    · rcases stops.drains with ⟨later, after, stopped⟩
      exact ⟨later, after, fun awaiting => awaiting.not_stopped stopped⟩
  · intro inTime
    constructor
    · intro later after
      exact (step_of_not_retrying (inTime.not_retrying after)
        (behavior.taken later)).1
    · exact inTime.drains fair cancelled

end Behaviors

section SmallSessions

/-- The token is cancelled while the first request of a reconnection is out, and
the Guard grants the answer that follows. -/
def grantedInTime : List (SessionEvent BytePeer) :=
  [.polled (.connectionClosed smallGuard 0) 0, .redial,
    .polled (.connectionEstablished smallGuard true) 0, .cancel,
    .polled (.response smallGuard 0
      (.challenge (Vector.replicate nonceLen 7) 0)) 0,
    .polled (.response smallGuard 1 (.accessGranted ["reader"])) 0, .stop]

/-- Where the session is before each of them. -/
def phasesInTime : List SessionPhase :=
  [.serving, .redialing 1, .authenticating 1 .connecting,
    .authenticating 1 (.awaiting 0 false), .authenticating 1 (.awaiting 0 false),
    .authenticating 1 (.awaiting 1 true), .serving]

theorem shutdown_stops_retrying_iff_small :
    ∃ behavior : Behavior (runClientSession smallSign smallGuard),
      behavior.state 0 = smallSession ∧ behavior.event 3 = .cancel ∧
        (behavior.state 4).phase.Awaiting ∧ StopsRetrying behavior 4 := by
  have computed : (execute (runClientSession smallSign smallGuard)
      smallSession grantedInTime).any
      (fun result =>
        decide (result.1.map (fun taken => taken.before.phase) =
          phasesInTime) &&
          (decide (result.2.phase = .draining) && result.2.cancelled)) =
        true := by
    decide +kernel
  rcases exists_run_of_any computed with ⟨log, finish, run, events, observed⟩
  simp only [Bool.and_eq_true, decide_eq_true_eq] at observed
  rcases observed with ⟨phases, draining, cancelled⟩
  have idles : runClientSession smallSign smallGuard finish .cancel =
      some (finish, []) := by
    rcases finish with ⟨swarm, phase, token⟩
    cases cancelled
    rfl
  rcases exists_restsAfter run idles with ⟨behavior, begins, rests⟩
  have phase : ∀ moment, (behavior.state moment).phase =
      phasesInTime[moment]?.getD .draining := by
    intro moment
    rw [← phases, List.getElem?_map]
    cases here : log[moment]? with
    | none =>
        rw [(rests.rests moment (List.getElem?_eq_none_iff.mp here)).1]
        exact draining
    | some transition =>
        rw [(rests.ran moment transition here).1]
        rfl
  have happens : behavior.event 3 = .cancel := by
    have fourth := congrArg (fun events => events[3]?) events
    simp only [List.getElem?_map] at fourth
    rcases Option.map_eq_some_iff.mp fourth with ⟨transition, here, happened⟩
    exact (rests.ran 3 transition here).2.trans happened
  have noted : (behavior.state 4).cancelled = true := by
    have taken := behavior.taken 3
    rw [happens] at taken
    exact congrArg (fun result => result.1.cancelled)
      (Option.some.inj taken.symm)
  have fair : WeaklyFair behavior
      (fun session => session.phase = .serving ∧ session.cancelled = true)
      (· = .stop) :=
    rests.weaklyFair (by simp [draining])
  refine ⟨behavior, begins, happens, ?_,
    (shutdown_stops_retrying_iff behavior fair noted).mpr ⟨?_, ?_, ?_⟩⟩
  · rw [phase 4]
    exact .mk 1 0 false
  · rw [phase 4]
    intro retrying
    cases retrying
  · -- what is lost leaves the session retrying, and no later phase is
    intro later after loses
    have retrying := retrying_of_loses loses (behavior.taken later)
    rcases Nat.exists_eq_add_of_le' after with ⟨index, rfl⟩
    rw [phase] at retrying
    rcases index with _ | _ | index
    · cases retrying
    · cases retrying
    · cases retrying
  · refine ⟨6, by decide, ?_⟩
    rw [phase 6]
    intro awaiting
    cases awaiting

/-- The Guard goes away for good; the token is cancelled before the first
dial of the reconnection. -/
def lostPick (session : ClientSession BytePeer) : SessionEvent BytePeer :=
  match session.phase with
  | .serving => .polled (.connectionClosed smallGuard 0) 0
  | .redialing _ => if session.cancelled then .redial else .cancel
  | .authenticating _ _ =>
      .polled (.outgoingConnectionError (some smallGuard) "unreachable") 0
  | _ => .wake

/-- Where such a session can be. -/
inductive Lost : ClientSession BytePeer → Prop where
  | serving {session : ClientSession BytePeer}
      (phase : session.phase = .serving)
      (established : session.swarm.established smallGuard = 1)
      (dialing : session.swarm.dialing smallGuard = 0) : Lost session
  | redialing {session : ClientSession BytePeer} {backoff : Nat}
      (phase : session.phase = .redialing backoff)
      (disconnected : Disconnected smallGuard session) : Lost session
  | connecting {session : ClientSession BytePeer} {backoff : Nat}
      (phase : session.phase = .authenticating backoff .connecting)
      (established : session.swarm.established smallGuard = 0)
      (dialing : session.swarm.dialing smallGuard = 1) : Lost session
  | sleeping {session : ClientSession BytePeer} {backoff : Nat}
      (phase : session.phase = .sleeping backoff)
      (disconnected : Disconnected smallGuard session) : Lost session

theorem Lost.step {session : ClientSession BytePeer} (lost : Lost session) :
    ∃ next actions,
      runClientSession smallSign smallGuard session (lostPick session) =
          some (next, actions) ∧ Lost next := by
  rcases session with ⟨swarm, phase, cancelled⟩
  cases lost with
  | serving phase established dialing =>
      subst phase
      have taken : runClientSession smallSign smallGuard
          ⟨swarm, .serving, cancelled⟩ (lostPick ⟨swarm, .serving, cancelled⟩) =
          some (⟨{ swarm with
              established := Function.update swarm.established smallGuard 0 },
            .redialing initialBackoff, cancelled⟩, []) := by
        simp only [lostPick, runClientSession, ClientSession.poll,
          Swarm.observe]
        rw [if_pos established]
        rfl
      exact ⟨_, _, taken, .redialing rfl ⟨by simp, dialing⟩⟩
  | @redialing backoff phase disconnected =>
      subst phase
      cases cancelled with
      | false => exact ⟨_, _, rfl, .redialing rfl disconnected⟩
      | true =>
          have dialed : ClientSession.redial ⟨swarm, .redialing backoff, true⟩
              smallGuard backoff = _ := redial_of_disconnected disconnected
          exact ⟨_, _, congrArg some dialed, .connecting rfl disconnected.1 (by simp)⟩
  | @connecting backoff phase established dialing =>
      subst phase
      have pending : swarm.dialing smallGuard ≠ 0 := by
        intro none
        rw [none] at dialing
        cases dialing
      have taken : runClientSession smallSign smallGuard
          ⟨swarm, .authenticating backoff .connecting, cancelled⟩
          (lostPick ⟨swarm, .authenticating backoff .connecting, cancelled⟩) =
          some (⟨{ swarm with
              dialing := Function.update swarm.dialing smallGuard
                (swarm.dialing smallGuard - 1) },
            .sleeping backoff, cancelled⟩,
            [.failed (.dial "unreachable")]) := by
        simp only [lostPick, runClientSession, ClientSession.poll,
          Swarm.observe]
        rw [if_neg pending]
        rfl
      have ended : swarm.dialing smallGuard - 1 = 0 :=
        congrArg Nat.pred dialing
      exact ⟨_, _, taken, .sleeping rfl ⟨established, by simp [ended]⟩⟩
  | sleeping phase disconnected =>
      subst phase
      exact ⟨_, _, rfl, .redialing rfl disconnected⟩

/-- The session in which this happens, from a lost connection on. -/
def lostSession : Behavior (runClientSession smallSign smallGuard) :=
  ofPick _ lostPick Lost (fun _ lost => lost.step) smallSession
    (.serving rfl rfl rfl)

/-- The token is cancelled before the first dial, and the session dials, and
sleeps, and dials, and never drains. -/
theorem cancelled_session_redials :
    lostSession.state 0 = smallSession ∧ lostSession.event 1 = .cancel ∧
      lostSession.actions 2 = [.dialed smallGuard] ∧
      lostSession.actions 5 = [.dialed smallGuard] ∧
      WeaklyFair lostSession
        (fun session => session.phase = .serving ∧ session.cancelled = true)
        (· = .stop) ∧
      ¬ StopsRetrying lostSession 2 := by
  have retrying : (lostSession.state 2).phase = .redialing 1 := rfl
  refine ⟨rfl, rfl, rfl, rfl, ?_, ?_⟩
  · intro moment always
    have serving := (always moment le_rfl).1
    have picked : lostSession.event moment =
        .polled (.connectionClosed smallGuard 0) 0 := by
      show lostPick (lostSession.state moment) = _
      rw [lostPick, serving]
    have loses : Loses smallSign smallGuard (lostSession.state moment)
        (lostSession.event moment) := by
      rw [picked]
      exact Or.inl ⟨serving, rfl⟩
    have lost := retrying_of_loses loses (lostSession.taken moment)
    rw [(always (moment + 1) (Nat.le_succ moment)).1] at lost
    cases lost
  · apply not_stopsRetrying_of_retrying
    rw [retrying]
    exact .redialing 1

end SmallSessions

end NuxAuth.Core
