import NuxAuth.Gateway.ReloadPipeline

/-!
# The order of the reloads

The lists that `spawn_reload_on_sighup` accepts go to the loop one by one.  The
loop adopts them in the order of the readings, leaves none out and adopts none
twice, and between two of them its whitelist stays as it is: a file that is
refused has no effect.
-/

namespace NuxAuth.Gateway

open NuxAuth.Core
open NuxAuth.Lib.BoundedChannel NuxAuth.Lib.RecordedRun

variable {PeerId : Type}

/-! ## Lists on their way -/

/-- The list of a reload. -/
def reloadedList : GuardControl PeerId → Option (Whitelist PeerId)
  | .reloadWhitelist list => some list
  | _ => none

/-- The list of a reading that was accepted. -/
def HostAction.accepted : HostAction PeerId → Option (Whitelist PeerId)
  | .loaded _ (.reloadWhitelist list) => some list
  | _ => none

/-- The list of a reload that was received. -/
def HostAction.adopted : HostAction PeerId → Option (Whitelist PeerId)
  | .received command => reloadedList command
  | _ => none

/-- The action that ends a reading. -/
def HostAction.endsReading : HostAction PeerId → Bool
  | .loaded _ _ => true
  | .unreadable => true
  | _ => false

/-- The list that waits for its place. -/
def ReloadPhase.sends : ReloadPhase PeerId → List (Whitelist PeerId)
  | .sending list => [list]
  | _ => []

/-- A SIGHUP that was received is still being answered. -/
def ReloadPhase.answers : ReloadPhase PeerId → Nat
  | .opening => 1
  | .reading _ _ => 1
  | _ => 0

namespace GuardProcess

/-- What is queued, and then what is to be queued. -/
def underWay (process : GuardProcess PeerId) : List (Whitelist PeerId) :=
  process.channel.queue.filterMap reloadedList ++ process.reload.sends

/-- The signals that no reading has answered yet. -/
def unanswered (process : GuardProcess PeerId) : Nat :=
  process.hangup.toNat + process.reload.answers

end GuardProcess

/-- The event is a SIGHUP. -/
def isHangup : HostEvent PeerId → Bool
  | .sighup => true
  | _ => false

section Lists

variable (taken : List (HostTransition PeerId))

/-- The lists of all readings that were accepted, in order. -/
def acceptedLists : List (Whitelist PeerId) :=
  (taken.flatMap Transition.actions).filterMap HostAction.accepted

/-- The lists of all reloads that were received, in order. -/
def adoptedLists : List (Whitelist PeerId) :=
  (taken.flatMap Transition.actions).filterMap HostAction.adopted

/-- How many readings have ended. -/
def readings : Nat :=
  (taken.flatMap Transition.actions).countP HostAction.endsReading

/-- How many SIGHUP have arrived. -/
def hangups : Nat :=
  (taken.map Transition.event).countP isHangup

variable (last : HostTransition PeerId)

theorem acceptedLists_snoc :
    acceptedLists (taken ++ [last]) =
      acceptedLists taken ++ last.actions.filterMap HostAction.accepted := by
  simp [acceptedLists]

theorem adoptedLists_snoc :
    adoptedLists (taken ++ [last]) =
      adoptedLists taken ++ last.actions.filterMap HostAction.adopted := by
  simp [adoptedLists]

end Lists

section Logged

variable (command : GuardControl PeerId) (actions : List (GuardAction PeerId))

theorem accepted_guard :
    (actions.map HostAction.guard).filterMap HostAction.accepted = [] := by
  simp [List.filterMap_eq_nil_iff, HostAction.accepted]

theorem adopted_guard :
    (actions.map HostAction.guard).filterMap HostAction.adopted = [] := by
  simp [List.filterMap_eq_nil_iff, HostAction.adopted]

theorem accepted_received :
    (.received command :: actions.map HostAction.guard).filterMap
      HostAction.accepted = [] :=
  accepted_guard actions

theorem adopted_received :
    (.received command :: actions.map HostAction.guard).filterMap
      HostAction.adopted = (reloadedList command).toList := by
  rw [List.filterMap_cons, adopted_guard, HostAction.adopted]
  cases reloadedList command with
  | none => rfl
  | some list => rfl

end Logged

/-! ## One step -/

section Steps

variable [DecidableEq PeerId] {Multiaddr Namespace : Type}
  [PeerIdText PeerId] [PeerIdentity PeerId] [MultiaddrText Multiaddr]
  [NamespaceText Namespace] {toml : TomlEdit}
  {registry : TunnelRegistry PeerId} {process next : GuardProcess PeerId}
  {event : HostEvent PeerId} {actions : List (HostAction PeerId)}

/-- What a step takes from the front and adds at the back. -/
structure ListsStep (process : GuardProcess PeerId)
    (actions : List (HostAction PeerId)) (next : GuardProcess PeerId) :
    Prop where
  underWay : next.channel.closed = false →
    process.underWay ++ actions.filterMap HostAction.accepted =
      actions.filterMap HostAction.adopted ++ next.underWay
  whitelist : next.loop.authenticator.whitelist =
    (actions.filterMap HostAction.adopted).getLastD
      process.loop.authenticator.whitelist
  adopts : actions.filterMap HostAction.adopted = [] ∨
    next.channel.closed = false

omit [DecidableEq PeerId] [PeerIdText PeerId] [PeerIdentity PeerId] in
theorem ListsStep.ofKept (queue : next.channel.queue = process.channel.queue)
    (sends : next.reload.sends = process.reload.sends)
    (whitelist : next.loop.authenticator.whitelist =
      process.loop.authenticator.whitelist)
    (accepted : actions.filterMap HostAction.accepted = [])
    (adopted : actions.filterMap HostAction.adopted = []) :
    ListsStep process actions next where
  underWay _ := by
    simp [GuardProcess.underWay, queue, sends, accepted, adopted]
  whitelist := by
    rw [whitelist, adopted]
    rfl
  adopts := Or.inl adopted

omit [DecidableEq PeerId] [PeerIdText PeerId] [PeerIdentity PeerId] in
/-- An accepted list is sent, one that is refused changes nothing. -/
theorem ListsStep.conclude {outcome : ReloadAction PeerId}
    {content got : List UInt8} {file : Nat}
    (reading : process.reload = .reading file got) :
    ListsStep process [.loaded content outcome]
      (process.concludeReload outcome) := by
  cases outcome with
  | refused error =>
      refine ListsStep.ofKept rfl ?_ rfl rfl rfl
      rw [reading]
      rfl
  | reloadWhitelist list =>
      rw [GuardProcess.concludeReload, GuardProcess.claimReload]
      split
      · next closed =>
          refine ⟨fun isOpen => ?_, rfl, Or.inl rfl⟩
          rw [closed] at isOpen
          cases isOpen
      · refine ⟨fun _ => ?_, rfl, Or.inl rfl⟩
        simp [GuardProcess.underWay, reading, ReloadPhase.sends,
          HostAction.accepted, HostAction.adopted, queue_claim]

theorem HostStep.lists (wired : Wired process)
    (step : HostStep Multiaddr Namespace toml registry process event next
      actions) :
    ListsStep process actions next := by
  cases step with
  | written | replaced | removed | hungUp | stopNoted | stopAgain =>
      exact .ofKept rfl rfl rfl rfl rfl
  | received waiting pending =>
      exact .ofKept rfl (by rw [waiting]; rfl) rfl rfl rfl
  | opened opening path | missing opening path =>
      exact .ofKept rfl (by rw [opening]; rfl) rfl rfl rfl
  | unreadable loading =>
      rcases loading with opening | ⟨file, got, reading⟩
      · exact .ofKept rfl (by rw [opening]; rfl) rfl rfl rfl
      · exact .ofKept rfl (by rw [reading]; rfl) rfl rfl rfl
  | readOn count reading left more =>
      exact .ofKept rfl (by rw [reading]; rfl) rfl rfl rfl
  | readEnd count reading ended => exact .conclude reading
  | pushedReload sending granted =>
      refine ⟨fun _ => ?_, rfl, Or.inl rfl⟩
      simp [GuardProcess.underWay, sending, ReloadPhase.sends, reloadedList]
  | refusedReload sending closed waits =>
      refine ⟨fun isOpen => ?_, rfl, Or.inl rfl⟩
      cases closed.symm.trans isOpen
  | claimedStop signalled =>
      have same := claimStop_queue process
      refine .ofKept same.1 ?_ (by rw [same.2]) rfl rfl
      rw [GuardProcess.claimStop]
      split <;> rfl
  | pushedStop sending granted =>
      refine ⟨fun _ => ?_, rfl, Or.inl rfl⟩
      simp [GuardProcess.underWay, reloadedList]
  | refusedStop sending closed waits => exact .ofKept rfl rfl rfl rfl rfl
  | looped other last taken =>
      exact .ofKept rfl rfl (unordered_of_other other taken).whitelist
        (accepted_guard _) (adopted_guard _)
  | commanded now isOpen popped taken =>
      rename_i command channel loop logged
      have running := (running_of_command taken).2
      have queue := (pop_eq_some popped).1
      have message : Requested command := wired.messages command (by
        rw [queue]
        exact List.mem_cons_self)
      have arrived : process.underWay =
          (reloadedList command).toList ++
            ({ process with channel := channel }.withLoop loop).underWay := by
        rw [GuardProcess.underWay, queue, List.filterMap_cons]
        cases reloadedList command with
        | none => rfl
        | some list => rfl
      have still : ({ process with channel := channel }.withLoop
          loop).channel.closed = false := by
        simp [GuardProcess.withLoop, (pop_eq_some popped).2, isOpen, running]
      refine ⟨fun _ => ?_, ?_, Or.inr still⟩
      · rw [accepted_received, adopted_received, List.append_nil, arrived]
      · rw [adopted_received]
        cases command with
        | reloadWhitelist list => exact whitelist_of_reload taken
        | shutdown gracePeriod => exact (orders_of_shutdown taken).1
        | revoke peer => exact message.elim
        | allow peer roles => exact message.elim

omit [DecidableEq PeerId] [PeerIdText PeerId] [PeerIdentity PeerId] in
theorem concludeReload_answers (process : GuardProcess PeerId)
    (outcome : ReloadAction PeerId) :
    (process.concludeReload outcome).unanswered = process.hangup.toNat := by
  cases outcome with
  | refused error => rfl
  | reloadWhitelist list =>
      rw [GuardProcess.concludeReload, GuardProcess.claimReload]
      split
      · rfl
      · rfl

/-- A reading ends for a signal of its own. -/
theorem HostStep.answered
    (step : HostStep Multiaddr Namespace toml registry process event next
      actions) :
    actions.countP HostAction.endsReading + next.unanswered ≤
      process.unanswered + [event].countP isHangup := by
  cases step with
  | hungUp =>
      cases pending : process.hangup with
      | false =>
          simp [GuardProcess.unanswered, isHangup, pending]
          omega
      | true =>
          simp [GuardProcess.unanswered, isHangup, pending]
  | received waiting pending =>
      simp [GuardProcess.unanswered, isHangup, waiting, pending,
        ReloadPhase.answers]
  | opened opening path | missing opening path =>
      simp [GuardProcess.unanswered, isHangup, opening, ReloadPhase.answers,
        HostAction.endsReading] <;> omega
  | unreadable loading =>
      rcases loading with opening | ⟨file, got, reading⟩
      · simp [GuardProcess.unanswered, isHangup, opening, ReloadPhase.answers,
          HostAction.endsReading]
        omega
      · simp [GuardProcess.unanswered, isHangup, reading, ReloadPhase.answers,
          HostAction.endsReading]
        omega
  | readOn count reading left more =>
      simp [GuardProcess.unanswered, isHangup, reading, ReloadPhase.answers]
  | readEnd count reading ended =>
      generalize Gateway.reload PeerId Multiaddr Namespace toml _ = outcome
      rw [concludeReload_answers, GuardProcess.unanswered, reading]
      simp [isHangup, ReloadPhase.answers, HostAction.endsReading]
      omega
  | pushedReload sending granted | refusedReload sending closed waits =>
      simp [GuardProcess.unanswered, isHangup, sending, ReloadPhase.answers]
  | claimedStop signalled =>
      rw [GuardProcess.claimStop]
      split <;> simp [GuardProcess.unanswered, isHangup]
  | commanded | looped =>
      simp [GuardProcess.unanswered, isHangup, GuardProcess.withLoop,
        HostAction.endsReading]
  | _ => simp [GuardProcess.unanswered, isHangup]

/-! ## The run -/

/-- Where the lists of a run stand at its end. -/
structure InOrder (first : Whitelist PeerId)
    (taken : List (HostTransition PeerId)) (process : GuardProcess PeerId) :
    Prop where
  wired : Wired process
  underWay : process.channel.closed = false →
    acceptedLists taken = adoptedLists taken ++ process.underWay
  adopted : adoptedLists taken <+: acceptedLists taken
  whitelist : process.loop.authenticator.whitelist =
    (adoptedLists taken).getLastD first
  answered : readings taken + process.unanswered ≤ hangups taken

omit [DecidableEq PeerId] [PeerIdText PeerId] [PeerIdentity PeerId] in
theorem getLastD_append (first : Whitelist PeerId)
    (front back : List (Whitelist PeerId)) :
    (front ++ back).getLastD first = back.getLastD (front.getLastD first) := by
  simp only [List.getLastD_eq_getLast?, List.getLast?_append]
  cases back.getLast? with
  | none => rfl
  | some last => rfl

/-- A list stays in line until the loop has returned. -/
theorem InOrder.step {first : Whitelist PeerId}
    {taken : List (HostTransition PeerId)}
    (order : InOrder first taken process)
    (step : HostStep Multiaddr Namespace toml registry process event next
      actions) :
    InOrder first (taken ++ [⟨process, event, actions, next⟩]) next := by
  have lists := step.lists order.wired
  have accepted := acceptedLists_snoc taken ⟨process, event, actions, next⟩
  have adopted := adoptedLists_snoc taken ⟨process, event, actions, next⟩
  have underWay : next.channel.closed = false →
      acceptedLists (taken ++ [⟨process, event, actions, next⟩]) =
        adoptedLists (taken ++ [⟨process, event, actions, next⟩]) ++
          next.underWay := by
    intro isOpen
    have before : process.channel.closed = false := by
      by_contra closed
      have still := closed_kept step ((Bool.not_eq_false _).mp closed)
      rw [isOpen] at still
      cases still
    rw [accepted, adopted, order.underWay before, List.append_assoc,
      lists.underWay isOpen, List.append_assoc]
  constructor
  · exact order.wired.step step
  · exact underWay
  · rcases lists.adopts with none | isOpen
    · rw [accepted, adopted, none, List.append_nil]
      exact order.adopted.trans (List.prefix_append _ _)
    · rw [underWay isOpen]
      exact List.prefix_append _ _
  · rw [lists.whitelist, order.whitelist, adopted, getLastD_append]
  · have moved := step.answered
    have before := order.answered
    simp only [readings, hangups, List.flatMap_append, List.flatMap_singleton,
      List.map_append, List.map_cons, List.map_nil, List.countP_append]
    simp only [readings, hangups] at before
    omega

end Steps

section Started

variable [DecidableEq PeerId] {Multiaddr Namespace : Type}
  [PeerIdText PeerId] [PeerIdentity PeerId] [MultiaddrText Multiaddr]
  [NamespaceText Namespace] {toml : TomlEdit}

omit [DecidableEq PeerId] [PeerIdText PeerId] [PeerIdentity PeerId] in
/-- At most as many lists are under way as the channel holds, and one more. -/
theorem length_underWay_le {process : GuardProcess PeerId}
    (wired : Wired process) :
    process.underWay.length ≤ controlCapacity + 1 := by
  have queued := List.length_filterMap_le reloadedList process.channel.queue
  have within := wired.sound.within
  have sent : process.reload.sends.length ≤ 1 := by
    cases process.reload with
    | sending list => exact Nat.le_refl _
    | _ => exact Nat.zero_le _
  rw [Channel.used] at within
  rw [GuardProcess.underWay, List.length_append]
  omega

/--
The loop adopts the accepted lists in the order of their readings, none twice
and none left out while it runs; its whitelist is always the last one adopted,
or the one it was started with; and every reading answers a SIGHUP of its own.
-/
theorem reloads_in_order
    {config : GuardConfig PeerId Multiaddr Namespace} {files : GuardFiles}
    {listens interrupts : Bool} {metrics : Metrics}
    {connections : List (Connection PeerId)}
    {taken : List (HostTransition PeerId)} {process : GuardProcess PeerId}
    (run : Run (stepProcess Multiaddr Namespace toml (guardRegistry config))
      (startGuard config files listens interrupts metrics connections) taken
      process) :
    adoptedLists taken <+: acceptedLists taken ∧
      process.loop.authenticator.whitelist =
        (adoptedLists taken).getLastD config.whitelist ∧
      (process.loop.running = true →
        ∃ underWay : List (Whitelist PeerId),
          underWay.length ≤ controlCapacity + 1 ∧
            acceptedLists taken = adoptedLists taken ++ underWay) ∧
      readings taken ≤ hangups taken := by
  have order : InOrder config.whitelist taken process := by
    refine run.history ?_ ?_
    · refine ⟨wired_start files listens interrupts rfl, fun _ => ?_, List.prefix_rfl, rfl,
        ?_⟩
      · cases listens <;> rfl
      · cases listens <;> exact Nat.le_refl _
    · intro trace state event next actions _ order stepped
      exact order.step (stepProcess_step stepped)
  refine ⟨order.adopted, order.whitelist, fun running => ?_,
    Nat.le_of_add_right_le order.answered⟩
  refine ⟨process.underWay, length_underWay_le order.wired,
    order.underWay ?_⟩
  rw [order.wired.closed, running]
  rfl

/-- The run that empties the file: one signal, one reading, one list. -/
theorem reloads_in_order_small :
    ∃ taken finish,
      Run (stepProcess PlainText PlainText blankToml
          (guardRegistry smallConfig)) smallProcess taken finish ∧
        taken.map Transition.event = emptiesFile ∧
        adoptedLists taken <+: acceptedLists taken ∧
          finish.loop.authenticator.whitelist =
            (adoptedLists taken).getLastD smallConfig.whitelist ∧
          (finish.loop.running = true →
            ∃ underWay : List (Whitelist BytePeer),
              underWay.length ≤ controlCapacity + 1 ∧
                acceptedLists taken = adoptedLists taken ++ underWay) ∧
          readings taken ≤ hangups taken := by
  rcases smallProcess_run with ⟨taken, finish, run, events, -, -⟩
  exact ⟨taken, finish, run, events, reloads_in_order run⟩

end Started

end NuxAuth.Gateway
