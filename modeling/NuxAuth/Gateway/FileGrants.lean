import NuxAuth.Gateway.ReloadOrder
import NuxAuth.Core.GrantedRoles

/-!
# Connections that the file grants

A serve task connects to a loopback port that `guard.toml` exposed for the
service when the Guard was started, and for a peer to which that file, or one
that was read and accepted since, gave the roles it holds.
-/

namespace NuxAuth.Gateway

open NuxAuth.Core
open NuxAuth.Lib.Bincode NuxAuth.Lib.FiniteTable NuxAuth.Lib.RecordedRun

variable {PeerId : Type} [DecidableEq PeerId]

/-! ## The registry of the file -/

section Registry

variable {Multiaddr Namespace : Type} {registry : TunnelRegistry PeerId}
  {service : String} {exposed : ExposedService}

theorem get_requireAll (checks : List (PeerId × Sha256))
    (registry : TunnelRegistry PeerId) (service : String) :
    (checks.foldl (fun registry entry =>
      registry.requireBinarySha256 entry.1 entry.2) registry).get service =
        registry.get service := by
  induction checks generalizing registry with
  | nil => rfl
  | cons first rest induction =>
      rw [List.foldl_cons, induction]
      rfl

omit [DecidableEq PeerId] in
theorem mem_of_get_exposeAll {entries : List (String × UInt16 × Option String)}
    (found : (entries.foldl (fun registry entry =>
      registry.expose entry.1 (.loopback entry.2.1) entry.2.2) registry).get
        service = some exposed) :
    (∃ port, (service, port, exposed.requiredRole) ∈ entries ∧
        exposed.target = .loopback port) ∨
      registry.get service = some exposed := by
  induction entries generalizing registry with
  | nil => exact Or.inr found
  | cons first rest induction =>
      rcases induction found with ⟨port, member, target⟩ | before
      · exact Or.inl ⟨port, List.mem_cons_of_mem _ member, target⟩
      · rcases first with ⟨name, port, requiredRole⟩
        simp only [TunnelRegistry.get, TunnelRegistry.expose,
          lookup_insert_eq_ite] at before
        split at before
        · rename_i same
          cases before
          exact Or.inl ⟨port, same ▸ List.mem_cons_self, rfl⟩
        · exact Or.inr before

/-- A service stands in the file, with its port and its role. -/
theorem mem_expose_of_get
    {config : GuardConfig PeerId Multiaddr Namespace}
    (found : (guardRegistry config).get service = some exposed) :
    ∃ port, (service, port, exposed.requiredRole) ∈ config.expose ∧
      exposed.target = .loopback port := by
  rw [guardRegistry, get_requireAll] at found
  rcases mem_of_get_exposeAll found with listed | before
  · exact listed
  · cases before

end Registry

/-! ## Readings -/

section Steps

variable {Multiaddr Namespace : Type} [PeerIdText PeerId]
  [PeerIdentity PeerId] [MultiaddrText Multiaddr] [NamespaceText Namespace]
  {toml : TomlEdit} {registry : TunnelRegistry PeerId}
  {process next : GuardProcess PeerId} {event : HostEvent PeerId}
  {actions : List (HostAction PeerId)}

theorem HostStep.loaded {content : List UInt8}
    {outcome : ReloadAction PeerId}
    (step : HostStep Multiaddr Namespace toml registry process event next
      actions)
    (loads : .loaded content outcome ∈ actions) :
    Gateway.reload PeerId Multiaddr Namespace toml content = outcome := by
  cases step with
  | readEnd count reading ended =>
      rw [List.mem_singleton] at loads
      cases loads
      rfl
  | _ => simp at loads

omit [PeerIdentity PeerId] in
theorem load_of_reload {content : List UInt8} {list : Whitelist PeerId}
    (reloaded : Gateway.reload PeerId Multiaddr Namespace toml content =
      .reloadWhitelist list) :
    ∃ renewed : GuardConfig PeerId Multiaddr Namespace,
      load toml (utf8String? content) = .ok renewed ∧
        renewed.whitelist = list := by
  rw [Gateway.reload] at reloaded
  split at reloaded
  · next renewed loaded =>
      cases reloaded
      exact ⟨renewed, loaded, rfl⟩
  · cases reloaded

/-- What the loop does in a step of the process, and what it lets in. -/
theorem HostStep.loopStep (wired : Wired process)
    (step : HostStep Multiaddr Namespace toml registry process event next
      actions) :
    (next.loop = process.loop ∧ ∀ action, .guard action ∉ actions) ∨
      ∃ happened logged,
        GuardStep registry process.loop happened next.loop logged ∧
          (∀ rule, (∀ list ∈ actions.filterMap HostAction.adopted,
            list.Obeys rule) → LetsIn rule happened) ∧
          ∀ action, .guard action ∈ actions → action ∈ logged := by
  cases step with
  | readEnd count reading ended =>
      exact Or.inl ⟨(concludeReload_queue process _).2, by simp⟩
  | claimedStop signalled =>
      exact Or.inl ⟨(claimStop_queue process).2, by simp⟩
  | @commanded now command channel loop logged isOpen popped taken =>
      have message : Requested command := wired.messages command (by
        rw [(pop_eq_some popped).1]
        exact List.mem_cons_self)
      refine Or.inr ⟨_, logged, runGuardLoop_step taken, fun rule obeys => ?_,
        by simp⟩
      rw [adopted_received] at obeys
      cases command with
      | reloadWhitelist list => exact obeys list List.mem_cons_self
      | shutdown gracePeriod => trivial
      | revoke peer => trivial
      | allow peer roles => exact message.elim
  | looped other last taken =>
      rename_i happened loop logged
      refine Or.inr ⟨happened, logged, runGuardLoop_step taken,
        fun rule _ => ?_, by simp⟩
      cases happened with
      | control command now => exact absurd rfl (other command now)
      | _ => trivial
  | _ => exact Or.inl ⟨rfl, by simp⟩

/-! ## The run -/

/-- The roles of a peer on the first list or on one adopted since. -/
def GrantedBy (first : Whitelist PeerId)
    (taken : List (HostTransition PeerId)) (peer : PeerId)
    (roles : List String) : Prop :=
  ∃ list ∈ first :: adoptedLists taken, list.roles peer = some roles

/-- What holds of a process after every run. -/
structure GrantsTraced (first : Whitelist PeerId)
    (taken : List (HostTransition PeerId)) (process : GuardProcess PeerId) :
    Prop where
  wired : Wired process
  obey : RolesObey (GrantedBy first taken) process.loop

theorem GrantsTraced.step {first : Whitelist PeerId}
    {taken : List (HostTransition PeerId)}
    (traced : GrantsTraced first taken process)
    (step : HostStep Multiaddr Namespace toml registry process event next
      actions) :
    GrantsTraced first (taken ++ [⟨process, event, actions, next⟩]) next := by
  refine ⟨traced.wired.step step, ?_⟩
  have still : RolesObey
      (GrantedBy first (taken ++ [⟨process, event, actions, next⟩]))
      process.loop := by
    refine traced.obey.mono ?_
    rintro peer roles ⟨list, member, listed⟩
    refine ⟨list, ?_, listed⟩
    rw [adoptedLists_snoc, ← List.cons_append]
    exact List.mem_append_left _ member
  rcases step.loopStep traced.wired with
    ⟨same, -⟩ | ⟨happened, logged, moved, letsIn, -⟩
  · rw [same]
    exact still
  · refine still.step moved (letsIn _ fun list adopted peer roles listed => ?_)
    refine ⟨list, ?_, listed⟩
    rw [adoptedLists_snoc, ← List.cons_append]
    exact List.mem_append_right _ adopted

/-- An accepted list is that of a text which was read and loaded. -/
theorem reading_of_accepted {start finish : GuardProcess PeerId}
    {taken : List (HostTransition PeerId)} {list : Whitelist PeerId}
    (run : Run (stepProcess Multiaddr Namespace toml registry) start taken
      finish)
    (accepted : list ∈ acceptedLists taken) :
    ∃ reading ∈ taken, ∃ content,
      ∃ renewed : GuardConfig PeerId Multiaddr Namespace,
        .loaded content (.reloadWhitelist list) ∈ reading.actions ∧
          load toml (utf8String? content) = .ok renewed ∧
            renewed.whitelist = list := by
  rcases List.mem_filterMap.mp accepted with ⟨action, logged, same⟩
  rcases List.mem_flatMap.mp logged with ⟨reading, member, inside⟩
  have loads : ∃ content, action = .loaded content (.reloadWhitelist list) := by
    cases action with
    | loaded content outcome =>
        cases outcome with
        | reloadWhitelist other =>
            cases same
            exact ⟨content, rfl⟩
        | refused error => cases same
    | _ => cases same
  rcases loads with ⟨content, rfl⟩
  rcases List.append_of_mem member with ⟨front, back, rfl⟩
  have step := stepProcess_step run.transition.2.1
  rcases load_of_reload (step.loaded inside) with ⟨renewed, loaded, listed⟩
  exact ⟨reading, member, content, renewed, inside, loaded, listed⟩

end Steps

section Started

variable {Multiaddr Namespace : Type} [PeerIdText PeerId]
  [PeerIdentity PeerId] [MultiaddrText Multiaddr] [NamespaceText Namespace]
  {toml : TomlEdit}

/--
A serve task connects to the loopback port that the file of the start exposes
for the service, and its peer stands with the required role on the list of that
file or of a text that was read and accepted before.
-/
theorem connections_granted_by_file
    {config : GuardConfig PeerId Multiaddr Namespace} {files : GuardFiles}
    {listens interrupts : Bool} {metrics : Metrics}
    {connections : List (Connection PeerId)}
    {earlier later : List (HostTransition PeerId)}
    {mark : HostTransition PeerId} {finish : GuardProcess PeerId}
    (run : Run (stepProcess Multiaddr Namespace toml (guardRegistry config))
      (startGuard config files listens interrupts metrics connections)
      (earlier ++ mark :: later) finish)
    {id : Nat} {peer : PeerId} {service : String} {target : SocketAddr}
    (connects :
      .guard (.served id peer (.connect service target)) ∈ mark.actions) :
    ∃ port requiredRole list roles,
      (service, port, requiredRole) ∈ config.expose ∧
        target = .loopback port ∧ list.roles peer = some roles ∧
          (∀ role, requiredRole = some role → role ∈ roles) ∧
            (list = config.whitelist ∨
              ∃ reading ∈ earlier, ∃ content,
                ∃ renewed : GuardConfig PeerId Multiaddr Namespace,
                  .loaded content (.reloadWhitelist list) ∈ reading.actions ∧
                    load toml (utf8String? content) = .ok renewed ∧
                      renewed.whitelist = list) := by
  rcases run.transition with ⟨before, stepped, -⟩
  have traced : GrantsTraced config.whitelist earlier mark.before := by
    refine before.history ?_ ?_
    · refine ⟨wired_start files listens interrupts rfl, rolesObey_start ?_⟩
      exact fun peer roles listed =>
        ⟨config.whitelist, List.mem_cons_self, listed⟩
    · intro trace state event next actions _ traced taken
      exact traced.step (stepProcess_step taken)
  rcases (stepProcess_step stepped).loopStep traced.wired with
    ⟨-, silent⟩ | ⟨happened, logged, moved, -, inside⟩
  · exact absurd connects (silent _)
  · rcases traced.obey.connects moved (inside _ connects) with
      ⟨exposed, roles, registered, rfl, held, list, member, listed⟩
    rcases mem_expose_of_get registered with ⟨port, entry, same⟩
    refine ⟨port, exposed.requiredRole, list, roles, entry, same, listed, held,
      ?_⟩
    rcases List.mem_cons.mp member with first | adopted
    · exact Or.inl first
    · have accepted := (reloads_in_order before).1.subset adopted
      exact Or.inr (reading_of_accepted before accepted)

end Started

section SmallGrant

/-- The small Guard, which exposes one service to the readers. -/
def exposingConfig : GuardConfig BytePeer PlainText PlainText :=
  { smallConfig with expose := [("db", 5432, some "reader")] }

/-- The peer authenticates and opens a tunnel. -/
def opensTunnel : List (HostEvent BytePeer) :=
  (SmallGuard.handshake ++
    [GuardEvent.incomingStream 0,
      .task 0 (.received SmallGuard.frame)]).map .loop

/-- The task connects to the exposed port. -/
def HostAction.connects : HostAction BytePeer → Bool
  | .guard action => decide (action =
      .served 0 SmallGuard.peer (.connect "db" (.loopback 5432)))
  | _ => false

theorem connects_iff {action : HostAction BytePeer} :
    action.connects = true ↔ action =
      .guard (.served 0 SmallGuard.peer (.connect "db" (.loopback 5432))) := by
  cases action <;> simp [HostAction.connects]

/-- The connection of the small Guard, with the reasons for it. -/
theorem connections_granted_by_file_small :
    ∃ taken finish,
      Run (stepProcess PlainText PlainText blankToml
          (guardRegistry exposingConfig))
        (startGuard exposingConfig smallFiles true true {} []) taken finish ∧
        taken.map Transition.event = opensTunnel ∧
          ∃ port requiredRole, ∃ list : Whitelist BytePeer, ∃ roles,
            ("db", port, requiredRole) ∈ exposingConfig.expose ∧
              .loopback 5432 = SocketAddr.loopback port ∧
                list.roles SmallGuard.peer = some roles ∧
                  ∀ role, requiredRole = some role → role ∈ roles := by
  have computed : (execute (stepProcess PlainText PlainText blankToml
      (guardRegistry exposingConfig))
      (startGuard exposingConfig smallFiles true true {} []) opensTunnel).any
      (fun result => result.1[4]?.any fun last =>
        last.actions.any HostAction.connects) = true := by
    decide +kernel
  rcases exists_run_of_any computed with ⟨taken, finish, run, events, observed⟩
  simp only [Option.any_eq_true] at observed
  rcases observed with ⟨last, here, logged⟩
  rcases List.any_eq_true.mp logged with ⟨action, member, connects⟩
  rw [connects_iff.mp connects] at member
  rcases split_at here with ⟨earlier, later, same, -⟩
  have shaped := same ▸ run
  rcases connections_granted_by_file shaped member with
    ⟨port, requiredRole, list, roles, entry, target, listed, held, -⟩
  exact ⟨taken, finish, run, events, port, requiredRole, list, roles, entry,
    target, listed, held⟩

end SmallGrant

end NuxAuth.Gateway
