import NuxAuth.Core.GuardTasks

/-!
# Where the roles of a task come from

A task carries the roles that the whitelist had when its stream was dequeued,
and the whitelist holds what it was started with and what commands put there.
So whatever holds of every list of roles that enters the loop holds of the
roles by which a task is allowed to connect.
-/

namespace NuxAuth.Core

open NuxAuth.Lib.FiniteTable
open NuxAuth.Lib.RecordedRun
open GuardLoop GuardAuthenticator

variable {PeerId : Type} [DecidableEq PeerId] [PeerIdentity PeerId]

/-- Every list of roles that the whitelist maps a peer to obeys the rule. -/
def Whitelist.Obeys (rule : PeerId → List String → Prop)
    (list : Whitelist PeerId) : Prop :=
  ∀ peer roles, list.roles peer = some roles → rule peer roles

/-- What the event lets into the whitelist obeys the rule. -/
def LetsIn (rule : PeerId → List String → Prop) : GuardEvent PeerId → Prop
  | .control (.allow peer roles) _ => rule peer roles
  | .control (.reloadWhitelist newWhitelist) _ => newWhitelist.Obeys rule
  | _ => True

/-- All roles in the loop obey the rule: the listed ones and the captured. -/
structure RolesObey (rule : PeerId → List String → Prop)
    (loop : GuardLoop PeerId) : Prop where
  listed : loop.authenticator.whitelist.Obeys rule
  captured : ∀ id task, loop.tasks.lookup id = some task →
    rule task.peer task.roles

section Rules

variable {rule weaker : PeerId → List String → Prop}
    {loop next : GuardLoop PeerId} {list : Whitelist PeerId}

omit [DecidableEq PeerId] in
theorem Whitelist.Obeys.mono (obeys : list.Obeys rule)
    (implied : ∀ peer roles, rule peer roles → weaker peer roles) :
    list.Obeys weaker :=
  fun peer roles listed => implied peer roles (obeys peer roles listed)

theorem Whitelist.Obeys.allow (obeys : list.Obeys rule) {peer : PeerId}
    {roles : List String} (here : rule peer roles) :
    (list.allow peer roles).Obeys rule := by
  intro other granted listed
  rw [Whitelist.roles_allow, Function.update_apply] at listed
  split at listed
  · rename_i same
    cases listed
    exact same ▸ here
  · exact obeys other granted listed

omit [DecidableEq PeerId] in
/-- Entries can be taken out. -/
theorem Whitelist.Obeys.sublist (obeys : list.Obeys rule)
    {fewer : Whitelist PeerId}
    (within : ∀ entry ∈ fewer.entries, entry ∈ list.entries) :
    fewer.Obeys rule := by
  intro peer roles listed
  refine obeys peer roles ?_
  rw [Whitelist.roles_eq_some_iff] at listed ⊢
  exact within _ listed

omit [DecidableEq PeerId] in
theorem RolesObey.mono (obey : RolesObey rule loop)
    (implied : ∀ peer roles, rule peer roles → weaker peer roles) :
    RolesObey weaker loop where
  listed := obey.listed.mono implied
  captured id task present := implied _ _ (obey.captured id task present)

omit [DecidableEq PeerId] in
theorem rolesObey_start {registry : TunnelRegistry PeerId} {control : Bool}
    {metrics : Metrics} {connections : List (Connection PeerId)}
    (obeys : list.Obeys rule) :
    RolesObey rule (GuardLoop.start (GuardAuthenticator.new list) registry
      control metrics connections) where
  listed := obeys
  captured id task present := by cases present

end Rules

section Steps

variable {rule : PeerId → List String → Prop}
    {registry : TunnelRegistry PeerId} {loop next : GuardLoop PeerId}
    {event : GuardEvent PeerId} {actions : List (GuardAction PeerId)}

theorem GuardStep.whitelist_obeys
    (step : GuardStep registry loop event next actions)
    (obeys : loop.authenticator.whitelist.Obeys rule)
    (letsIn : LetsIn rule event) :
    next.authenticator.whitelist.Obeys rule := by
  by_cases command : WhitelistCommand event
  · cases step with
    | revoked peer now =>
        refine obeys.sublist ?_
        intro entry member
        rw [(revokePeers_revocation loop [peer]).whitelist] at member
        exact List.mem_of_mem_filter member
    | allowed peer roles now => exact obeys.allow letsIn
    | reloaded newWhitelist now =>
        have replaced : newWhitelist.Obeys rule := letsIn
        refine replaced.sublist ?_
        intro entry member
        rw [(revokePeers_revocation _ _).whitelist] at member
        exact List.mem_of_mem_filter member
    | idle _ _ quiet =>
        rcases quiet with rfl | rfl | ⟨now, rfl⟩
        · exact obeys
        · exact obeys
        · exact obeys
    | _ => exact absurd command id
  · rw [step.whitelist_kept command]
    exact obeys

theorem RolesObey.step (obey : RolesObey rule loop)
    (step : GuardStep registry loop event next actions)
    (letsIn : LetsIn rule event) :
    RolesObey rule next := by
  refine ⟨step.whitelist_obeys obey.listed letsIn, ?_⟩
  intro id task present
  cases step.task_origin present with
  | kept present => exact obey.captured id task present
  | resumed old resumption done present here continued same =>
      rw [same]
      exact obey.captured id old present
  | admitted admitted =>
      exact obey.listed _ _
        (sessionRoles_eq_some_iff.mp admitted.authorized).2

/-- A task connects to an exposed service whose role is one it captured. -/
theorem RolesObey.connects (obey : RolesObey rule loop)
    (step : GuardStep registry loop event next actions) {id : Nat}
    {peer : PeerId} {service : String} {target : SocketAddr}
    (logged : .served id peer (.connect service target) ∈ actions) :
    ∃ exposed roles, registry.get service = some exposed ∧
      target = exposed.target ∧
        (∀ role, exposed.requiredRole = some role → role ∈ roles) ∧
          rule peer roles := by
  rcases step.served logged with
    ⟨task, resumption, stage, done, found, rfl, -, continued, performed, -⟩
  have obeyed := obey.captured id task found
  rcases serveIo_continues continued with
    ⟨received, chunk, -, -, -, rfl⟩ |
    ⟨received, chunk, header, rest, exposed, -, -, -, allowed, -, rfl⟩ |
    ⟨header, exposed, -, -, -, rfl⟩ |
    ⟨header, exposed, -, -, -, rfl⟩
  · cases performed
  · rcases admitHeader_eq_some_iff.mp allowed with ⟨registered, held, -⟩
    rw [List.mem_singleton] at performed
    cases performed
    exact ⟨exposed, task.roles, registered, rfl, held, obeyed⟩
  · rw [List.mem_singleton] at performed
    cases performed
  · cases performed

end Steps

end NuxAuth.Core
