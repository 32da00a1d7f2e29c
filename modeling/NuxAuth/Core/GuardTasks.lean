import NuxAuth.Core.GuardTables

/-!
# What a serve task may do, and since when

The decision on a tunnel is spread over time: the session is looked up and the
roles are read when the stream is dequeued, the service is checked when the
opening frame is complete.  A task therefore answers to the moment of its
dequeue.  The first part follows one task from there on; the second part shows
that in a run from a fresh authenticator that moment lies in the run, and what
was true then.
-/

namespace NuxAuth.Core

open NuxAuth.Lib.FiniteTable
open NuxAuth.Lib.RecordedRun
open GuardLoop GuardAuthenticator

variable {PeerId : Type} [DecidableEq PeerId] [PeerIdentity PeerId]

/-! ## A task after its dequeue -/

/-- The task still has the roles captured for it, and obeyed them so far. -/
structure Captured (registry : TunnelRegistry PeerId) (peer : PeerId)
    (roles : List String) (task : ServeTask PeerId) : Prop where
  samePeer : task.peer = peer
  sameRoles : task.roles = roles
  obeyed : ∀ header service,
    task.stage.admitted? = some (header, service) →
      admitHeader registry peer roles header = some service

section Tasks

variable {registry : TunnelRegistry PeerId} {loop next : GuardLoop PeerId}
    {event : GuardEvent PeerId} {actions : List (GuardAction PeerId)}
    {peer : PeerId} {roles : List String} {id : Nat}

omit [PeerIdentity PeerId] in
/-- Resuming a task keeps what it captured. -/
theorem Captured.resume {task : ServeTask PeerId}
    (captured : Captured registry peer roles task)
    {resumption : ServeEvent} {stage : ServeStage}
    {done : List ServeAction}
    (continued : serveIo registry task.peer task.roles task.stage resumption =
      some (.continues stage done)) :
    Captured registry peer roles { task with stage := stage } := by
  rcases captured with ⟨rfl, rfl, obeyed⟩
  refine ⟨rfl, rfl, ?_⟩
  intro header service admitted
  rcases serveIo_continues continued with
    ⟨received, chunk, -, -, rfl, -⟩ |
    ⟨received, chunk, decoded, rest, exposed, -, -, -, allowed, rfl, -⟩ |
    ⟨decoded, exposed, connecting, -, rfl, -⟩ |
    ⟨decoded, exposed, acknowledging, -, rfl, -⟩
  · cases admitted
  · cases admitted
    exact allowed
  · apply obeyed
    rw [connecting]
    exact admitted
  · apply obeyed
    rw [acknowledging]
    exact admitted

/-- The numbered task is as captured, or gone for good. -/
structure Follows (registry : TunnelRegistry PeerId) (peer : PeerId)
    (roles : List String) (id : Nat) (loop : GuardLoop PeerId) :
    Prop where
  numbered : id < loop.nextTask
  captured : ∀ task, loop.tasks.lookup id = some task →
    Captured registry peer roles task

theorem Follows.step (follows : Follows registry peer roles id loop)
    (step : GuardStep registry loop event next actions) :
    Follows registry peer roles id next := by
  refine ⟨lt_of_lt_of_le follows.numbered step.nextTask_le, ?_⟩
  intro task present
  cases step.task_origin present with
  | kept present => exact follows.captured task present
  | resumed old resumption done present here continued same =>
    rw [same]
    exact (follows.captured old present).resume continued
  | admitted admitted =>
    exact absurd admitted.numbered follows.numbered.ne

/-- A dequeued stream is followed from then on. -/
theorem GuardStep.follows
    (step : GuardStep registry loop event next actions)
    (logged : .spawned id peer ∈ actions) :
    ∃ roles, loop.authenticator.sessionRoles peer = some roles ∧
      loop.shutdownDeadline = none ∧
        Follows registry peer roles id next := by
  rcases step.spawned logged with ⟨task, admitted, rfl, present, numbered⟩
  refine ⟨task.roles, admitted.authorized, admitted.serving, ?_, ?_⟩
  · rw [numbered, admitted.numbered]
    exact Nat.lt_succ_self _
  · intro found same
    have : task = found := Option.some.inj (present.symm.trans same)
    subst this
    refine ⟨rfl, rfl, ?_⟩
    intro header service past
    rw [admitted.waiting] at past
    cases past

/-- What a task does towards the outside was allowed by its captured roles. -/
theorem Follows.served (follows : Follows registry peer roles id loop)
    (step : GuardStep registry loop event next actions)
    {action : ServeAction} (logged : .served id peer action ∈ actions) :
    ∃ header service, header.service = action.service ∧
      admitHeader registry peer roles header = some service ∧
        (∀ target, action = .connect action.service target →
          target = service.target) ∧
          ∃ task, next.tasks.lookup id = some task ∧
            task.stage.admitted? = some (header, service) := by
  rcases step.served logged with
    ⟨task, resumption, stage, done, found, rfl, -, continued, performed, after⟩
  have resumed := (follows.captured task found).resume continued
  rcases serveIo_continues continued with
    ⟨received, chunk, -, -, rfl, rfl⟩ |
    ⟨received, chunk, header, rest, service, -, -, -, -, rfl, rfl⟩ |
    ⟨header, service, -, -, rfl, rfl⟩ |
    ⟨header, service, -, -, rfl, rfl⟩
  · cases performed
  · rw [List.mem_singleton] at performed
    subst performed
    refine ⟨header, service, rfl, resumed.obeyed header service rfl, ?_,
      _, after, rfl⟩
    intro target same
    cases same
    rfl
  · rw [List.mem_singleton] at performed
    subst performed
    refine ⟨header, service, rfl, resumed.obeyed header service rfl, ?_,
      _, after, rfl⟩
    intro target same
    cases same
  · cases performed

end Tasks

/-! ## Withdrawing a role -/

/-- The commands that change the whitelist. -/
def WhitelistCommand : GuardEvent PeerId → Prop
  | .control (.allow _ _) _ => True
  | .control (.revoke _) _ => True
  | .control (.reloadWhitelist _) _ => True
  | _ => False

/-- The live whitelist grants the role to the peer. -/
def GuardLoop.GrantsRole (loop : GuardLoop PeerId) (peer : PeerId)
    (role : String) : Prop :=
  ∃ roles, loop.authenticator.whitelist.roles peer = some roles ∧
    role ∈ roles

instance (event : GuardEvent PeerId) : Decidable (WhitelistCommand event) := by
  unfold WhitelistCommand
  split <;> infer_instance

instance (loop : GuardLoop PeerId) (peer : PeerId) (role : String) :
    Decidable (loop.GrantsRole peer role) :=
  match listed : loop.authenticator.whitelist.roles peer with
  | none => .isFalse (by simp [GuardLoop.GrantsRole, listed])
  | some roles => decidable_of_iff (role ∈ roles)
      (by simp [GuardLoop.GrantsRole, listed])

theorem GuardStep.whitelist_kept {registry : TunnelRegistry PeerId}
    {loop next : GuardLoop PeerId} {event : GuardEvent PeerId}
    {actions : List (GuardAction PeerId)}
    (step : GuardStep registry loop event next actions)
    (other : ¬ WhitelistCommand event) :
    next.authenticator.whitelist = loop.authenticator.whitelist := by
  cases step with
  | streamOverCap found serving authorized reserved full =>
      have same := peerSemaphore_authenticator reserved
      exact congrArg GuardAuthenticator.whitelist same
  | streamSpawned found serving authorized reserved permitted =>
      have same := peerSemaphore_authenticator reserved
      exact congrArg GuardAuthenticator.whitelist same
  | revoked peer now => exact absurd trivial other
  | allowed peer roles now => exact absurd trivial other
  | reloaded newWhitelist now => exact absurd trivial other
  | _ => rfl

/-- A withdrawn role stays withdrawn until a command grants it again. -/
theorem not_grantsRole_of_run {registry : TunnelRegistry PeerId}
    {start finish : GuardLoop PeerId} {trace : List (GuardTransition PeerId)}
    {peer : PeerId} {role : String}
    (run : Run (runGuardLoop registry) start trace finish)
    (withdrawn : ¬ start.GrantsRole peer role)
    (notRegranted : ∀ transition ∈ trace,
      WhitelistCommand transition.event →
        ¬ transition.after.GrantsRole peer role) :
    ¬ finish.GrantsRole peer role := by
  induction run with
  | start => exact withdrawn
  | snoc prior taken induction =>
      rename_i trace state event actions next
      by_cases command : WhitelistCommand event
      · exact notRegranted _ List.mem_concat_self command
      · rw [GrantsRole, (runGuardLoop_step taken).whitelist_kept command]
        apply induction
        intro transition member
        exact notRegranted transition (List.mem_append_left _ member)

/--
A task whose stream was dequeued after a role was withdrawn, and before it was
granted again, neither connects to nor acknowledges a service requiring it.
-/
theorem withdrawn_role_not_served {registry : TunnelRegistry PeerId}
    {start finish : GuardLoop PeerId}
    {earlier middle later rest : List (GuardTransition PeerId)}
    {withdrawal dequeue use : GuardTransition PeerId}
    (run : Run (runGuardLoop registry) start
      (earlier ++ withdrawal :: (middle ++ dequeue :: (later ++ use :: rest)))
      finish)
    {peer : PeerId} {role : String}
    (withdrawn : ¬ withdrawal.after.GrantsRole peer role)
    (notRegranted : ∀ transition ∈ middle,
      WhitelistCommand transition.event →
        ¬ transition.after.GrantsRole peer role)
    {id : Nat} (dequeued : .spawned id peer ∈ dequeue.actions)
    {action : ServeAction} (served : .served id peer action ∈ use.actions) :
    ∀ service, registry.get action.service = some service →
      service.requiredRole ≠ some role := by
  intro service exposed required
  rcases run.transition with ⟨-, -, afterWithdrawal⟩
  rcases afterWithdrawal.transition with ⟨untilDequeue, atDequeue, afterDequeue⟩
  rcases afterDequeue.transition with ⟨untilUse, atUse, -⟩
  have notGranted := not_grantsRole_of_run untilDequeue withdrawn notRegranted
  rcases (runGuardLoop_step atDequeue).follows dequeued with
    ⟨roles, authorized, -, follows⟩
  have followed : Follows registry peer roles id use.before := by
    refine untilUse.invariant follows ?_
    intro state event next actions before taken
    exact before.step (runGuardLoop_step taken)
  rcases followed.served (runGuardLoop_step atUse) served with
    ⟨header, admitted, sameService, allowed, -⟩
  rcases admitHeader_eq_some_iff.mp allowed with ⟨registered, held, -⟩
  rw [sameService, exposed] at registered
  cases registered
  apply notGranted
  exact ⟨roles, (sessionRoles_eq_some_iff.mp authorized).2,
    held role required⟩

section SmallRun

open SmallGuard

/-- The peer gets a second role and loses it again, and a task dequeued then is
served by the first one. -/
def losesWriter : List (GuardEvent BytePeer) :=
  handshake ++ [.control (.allow peer ["reader", "writer"]) 0,
    .control (.allow peer ["reader"]) 0, .incomingStream 0,
    .task 0 (.received frame), .task 0 .connected]

/-- The withdrawal of a role that was held, a dequeue after it, and a use of the
dequeued task. -/
def usedAfterWithdrawal : List (GuardTransition BytePeer) → Bool
  | [_, _, _, _, withdrawal, dequeue, _, use] =>
      (decide (withdrawal.before.GrantsRole peer "writer") &&
          decide (¬ withdrawal.after.GrantsRole peer "writer")) &&
        (logs dequeue (.spawned 0 peer) &&
          logs use (.served 0 peer (.writeAck "db")))
  | _ => false

theorem withdrawn_role_not_served_small :
    ∃ trace finish,
      Run (runGuardLoop registry) start trace finish ∧
      trace.map Transition.event = losesWriter ∧
      (∃ withdrawal ∈ trace,
        withdrawal.before.GrantsRole peer "writer" ∧
          ¬ withdrawal.after.GrantsRole peer "writer") ∧
      (registry.services.lookup "db").bind ExposedService.requiredRole ≠
        some "writer" := by
  have computed : (execute (runGuardLoop registry) start losesWriter).any
      (fun result => usedAfterWithdrawal result.1) = true := by
    decide +kernel
  rcases exists_run_of_any computed with ⟨trace, finish, run, events, observed⟩
  dsimp only at observed
  unfold usedAfterWithdrawal at observed
  split at observed
  · rename_i first second third grants withdrawal dequeue reading use
    simp only [Bool.and_eq_true, decide_eq_true_eq, logs_iff] at observed
    rcases observed with ⟨⟨held, withdrawn⟩, dequeued, served⟩
    have shaped : Run (runGuardLoop registry) start
        ([first, second, third, grants] ++ withdrawal ::
          ([] ++ dequeue :: ([reading] ++ use :: []))) finish := run
    refine ⟨_, finish, run, events, ⟨withdrawal, by simp, held, withdrawn⟩, ?_⟩
    exact withdrawn_role_not_served shaped withdrawn (by simp) dequeued served
      _ rfl
  · cases observed

/-- The three ways to leave the small peer without its role. -/
def withdrawals : List (GuardControl BytePeer) :=
  [.allow peer [], .revoke peer,
    .reloadWhitelist (Whitelist.new.allow peer ["writer"])]

/-- A withdrawal between the dequeue of a stream and its opening frame. -/
def withdrawalEvents (command : GuardControl BytePeer) :
    List (GuardEvent BytePeer) :=
  handshake ++ [.incomingStream 0, .control command 0,
    .task 0 (.received frame), .task 0 .connected]

/-- The role is withdrawn behind the dequeue, and the task is served all the
same. -/
def servedAfterWithdrawal : List (GuardTransition BytePeer) → Bool
  | _ :: _ :: _ :: _ :: withdrawal :: later =>
      decide (¬ withdrawal.after.GrantsRole peer "reader") &&
        (decide (∀ transition ∈ later, ¬ WhitelistCommand transition.event) &&
          later.any fun transition =>
            logs transition (.served 0 peer (.writeAck "db")))
  | _ => false

/--
In some run the command withdraws the role, no later command touches the
whitelist, and a task still acknowledges the service that requires the role.
-/
def StillServed (command : GuardControl BytePeer) : Prop :=
  ∃ earlier withdrawal later finish,
    Run (runGuardLoop registry) start
      (earlier ++ withdrawal :: later) finish ∧
    withdrawal.event = .control command 0 ∧
    ¬ withdrawal.after.GrantsRole peer "reader" ∧
    (∀ transition ∈ later, ¬ WhitelistCommand transition.event) ∧
    (∃ transition ∈ later,
      .served 0 peer (.writeAck "db") ∈ transition.actions) ∧
    ∃ service, registry.get "db" = some service ∧
      service.requiredRole = some "reader"

theorem stillServed_of_withdrawal {command : GuardControl BytePeer}
    (listed : command ∈ withdrawals) :
    StillServed command := by
  have computed : ∀ command ∈ withdrawals,
      (execute (runGuardLoop registry) start (withdrawalEvents command)).any
        (fun result => servedAfterWithdrawal result.1) = true := by
    decide +kernel
  rcases exists_run_of_any (computed command listed) with
    ⟨trace, finish, run, events, observed⟩
  dsimp only at observed
  unfold servedAfterWithdrawal at observed
  split at observed
  · rename_i first second third fourth withdrawal later
    simp only [Bool.and_eq_true, decide_eq_true_eq, List.any_eq_true,
      logs_iff] at observed
    rcases observed with ⟨withdrawn, quiet, served⟩
    simp only [withdrawalEvents, handshake, List.map_cons, List.cons_append,
      List.nil_append, List.cons.injEq] at events
    refine ⟨[first, second, third, fourth], withdrawal, later, finish, run,
      events.2.2.2.2.1, withdrawn, quiet, served, _, rfl, rfl⟩
  · cases observed

/--
A task dequeued before the withdrawal still acknowledges a service requiring
the withdrawn role, whichever command withdrew it.
-/
theorem captured_role_still_served :
    StillServed (.allow peer []) ∧ StillServed (.revoke peer) ∧
      StillServed (.reloadWhitelist (Whitelist.new.allow peer ["writer"])) := by
  refine ⟨stillServed_of_withdrawal ?_, stillServed_of_withdrawal ?_,
    stillServed_of_withdrawal ?_⟩
  · exact List.mem_cons_self
  · exact List.mem_cons_of_mem _ List.mem_cons_self
  · exact List.mem_cons_of_mem _ (List.mem_cons_of_mem _ List.mem_cons_self)

end SmallRun

end NuxAuth.Core
