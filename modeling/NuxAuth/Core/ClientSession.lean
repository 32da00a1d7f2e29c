import NuxAuth.Core.Client

/-!
# The client session and its reconnection loop

`run_client_session` polls the swarm until the last connection to the Guard
closes, and then stays in `reauthenticate` until a call of `authenticate`
succeeds: dial, authenticate, and after a failure sleep and try again with
twice the delay.  The swarm is polled while the session serves, while
`authenticate` runs and while the session drains; it is not polled while the
loop sleeps, nor when the dial is refused.
-/

namespace NuxAuth.Core

open NuxAuth.Lib.RecordedRun

/-- Where `run_client_session` stands. -/
inductive SessionPhase where
  | serving
  /-- the head of an iteration of `reauthenticate` -/
  | redialing (backoff : Nat)
  | authenticating (backoff : Nat) (stage : AuthenticateStage)
  | sleeping (backoff : Nat)
  | draining
  | ended
deriving DecidableEq

/-- The swarm, the phase and the shutdown token of a session. -/
structure ClientSession (PeerId : Type) where
  swarm : Swarm PeerId
  phase : SessionPhase
  cancelled : Bool

/-- What can happen to a session. -/
inductive SessionEvent (PeerId : Type) where
  | polled (event : SwarmEvent PeerId) (now : UInt64)
  | redial
  | wake
  /-- somebody cancels the shutdown token -/
  | cancel
  /-- `select!` takes the branch of the token -/
  | stop
  | graceElapsed
deriving DecidableEq

/-- One recorded step of a session. -/
abbrev SessionTransition (PeerId : Type) :=
  Transition (ClientSession PeerId) (SessionEvent PeerId)
    (ClientAction PeerId)

/-- `INITIAL_BACKOFF`, in seconds. -/
def initialBackoff : Nat := 1

/-- `MAX_BACKOFF`, in seconds. -/
def maxBackoff : Nat := 30

variable {PeerId : Type} [DecidableEq PeerId]

namespace ClientSession

/-- The phase after `authenticate` went on or returned. -/
def afterProgress (backoff : Nat) : AuthenticateProgress → SessionPhase
  | .continues stage => .authenticating backoff stage
  | .returns (.ok _) => .serving
  | .returns (.error _) => .sleeping backoff

/-- `redial_known_peer`, and `authenticate` up to its first poll. -/
def redial (session : ClientSession PeerId) (guard : PeerId) (backoff : Nat) :
    ClientSession PeerId × List (ClientAction PeerId) :=
  match session.swarm.dial guard with
  | none =>
      ({ session with phase := .sleeping backoff }, [.dialRefused guard])
  | some swarm =>
      let (swarm, stage, actions) := authenticate swarm guard
      ({ session with swarm := swarm, phase := .authenticating backoff stage },
        .dialed guard :: actions)

/-- The event a poll returned, in the phase that polled. -/
def poll (sign : List UInt8 → Option (List UInt8)) (guard : PeerId)
    (session : ClientSession PeerId) (event : SwarmEvent PeerId)
    (now : UInt64) :
    Option (ClientSession PeerId × List (ClientAction PeerId)) :=
  match session.phase with
  | .serving =>
      (session.swarm.observe event).map fun swarm =>
        let phase :=
          if event = .connectionClosed guard 0 then
            .redialing initialBackoff
          else
            .serving
        ({ session with swarm := swarm, phase := phase }, [])
  | .authenticating backoff stage =>
      (session.swarm.observe event).map fun swarm =>
        let (swarm, progress, actions) :=
          resumeAuthenticate sign guard swarm now stage event
        ({ session with
            swarm := swarm, phase := afterProgress backoff progress },
          actions)
  | .draining =>
      (session.swarm.observe event).map fun swarm =>
        ({ session with swarm := swarm }, [])
  | _ => none

end ClientSession

/-- One step of `run_client_session`. -/
def runClientSession (sign : List UInt8 → Option (List UInt8))
    (guard : PeerId) :
    Step (ClientSession PeerId) (SessionEvent PeerId) (ClientAction PeerId) :=
  fun session event =>
    match event with
    | .polled event now => session.poll sign guard event now
    | .redial =>
        match session.phase with
        | .redialing backoff => some (session.redial guard backoff)
        | _ => none
    | .wake =>
        match session.phase with
        | .sleeping backoff =>
            some ({ session with
              phase := .redialing (min (backoff * 2) maxBackoff) }, [])
        | _ => none
    | .cancel => some ({ session with cancelled := true }, [])
    | .stop =>
        if session.phase = .serving ∧ session.cancelled then
          some ({ session with phase := .draining }, [])
        else
          none
    | .graceElapsed =>
        if session.phase = .draining then
          some ({ session with phase := .ended }, [])
        else
          none

/-! ## What each phase can do -/

section Step

variable {sign : List UInt8 → Option (List UInt8)} {guard : PeerId}
    {session next : ClientSession PeerId} {event : SessionEvent PeerId}
    {actions : List (ClientAction PeerId)} {backoff : Nat}

/-- At the head of an iteration only the dial is possible. -/
theorem step_of_redialing (head : session.phase = .redialing backoff)
    (taken : runClientSession sign guard session event =
      some (next, actions)) :
    (event = .redial ∧ (next, actions) = session.redial guard backoff) ∨
      (event = .cancel ∧ next = { session with cancelled := true }) := by
  cases event with
  | polled event now => simp [runClientSession, ClientSession.poll, head] at taken
  | redial =>
      simp only [runClientSession, head] at taken
      exact Or.inl ⟨rfl, (Option.some.inj taken).symm⟩
  | wake => simp [runClientSession, head] at taken
  | cancel =>
      cases taken
      exact Or.inr ⟨rfl, rfl⟩
  | stop => simp [runClientSession, head] at taken
  | graceElapsed => simp [runClientSession, head] at taken

/-- A sleeping loop only wakes. -/
theorem step_of_sleeping (asleep : session.phase = .sleeping backoff)
    (taken : runClientSession sign guard session event =
      some (next, actions)) :
    (event = .wake ∧ next = { session with
        phase := .redialing (min (backoff * 2) maxBackoff) }) ∨
      (event = .cancel ∧ next = { session with cancelled := true }) := by
  cases event with
  | polled event now =>
      simp [runClientSession, ClientSession.poll, asleep] at taken
  | redial => simp [runClientSession, asleep] at taken
  | wake =>
      simp only [runClientSession, asleep] at taken
      cases taken
      exact Or.inl ⟨rfl, rfl⟩
  | cancel =>
      cases taken
      exact Or.inr ⟨rfl, rfl⟩
  | stop => simp [runClientSession, asleep] at taken
  | graceElapsed => simp [runClientSession, asleep] at taken

/-- A running call takes the events that the swarm returns. -/
theorem step_of_authenticating {stage : AuthenticateStage}
    (running : session.phase = .authenticating backoff stage)
    (taken : runClientSession sign guard session event =
      some (next, actions)) :
    (∃ polled now swarm, event = .polled polled now ∧
        session.swarm.observe polled = some swarm ∧
          next.phase = ClientSession.afterProgress backoff
            (resumeAuthenticate sign guard swarm now stage polled).2.1) ∨
      (event = .cancel ∧ next = { session with cancelled := true }) := by
  cases event with
  | polled event now =>
      simp only [runClientSession, ClientSession.poll, running] at taken
      rcases Option.map_eq_some_iff.mp taken with ⟨swarm, observed, same⟩
      cases same
      exact Or.inl ⟨event, now, swarm, rfl, observed, rfl⟩
  | redial => simp [runClientSession, running] at taken
  | wake => simp [runClientSession, running] at taken
  | cancel =>
      cases taken
      exact Or.inr ⟨rfl, rfl⟩
  | stop => simp [runClientSession, running] at taken
  | graceElapsed => simp [runClientSession, running] at taken

end Step

end NuxAuth.Core
