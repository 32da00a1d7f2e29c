import NuxAuth.Gateway.ControlChannel

/-!
# From SIGHUP to the live whitelist

A SIGHUP is noted, received, answered by a reading of `guard.toml`, and the
whitelist of that reading goes through the control channel to the loop.
Readings of an older file may still be under way, and messages with their
whitelists may still be queued; all of them stand before the new one.

Once nobody touches the file and no read of it fails, the readings that begin
are readings of it.  So a signal that arrives from then on makes the loop adopt
the whitelist of the file, and nothing behind it in the channel makes the loop
leave it again.
-/

namespace NuxAuth.Gateway

open NuxAuth.Core NuxAuth.Core.GuardLoop
open NuxAuth.Lib.Bincode NuxAuth.Lib.BoundedChannel NuxAuth.Lib.FairBehavior
open NuxAuth.Lib.RecordedRun

variable {PeerId : Type} [DecidableEq PeerId]

/-! ## A file that is left alone -/

/-- Somebody writes the file, puts another one in its place or removes it. -/
def TouchesFile : HostEvent PeerId → Prop
  | .written _ _ => True
  | .replaced _ => True
  | .removed => True
  | _ => False

/-- Events after which a reading may find another content, or none: the file is
touched, or a read of it fails. -/
def DisturbsReading : HostEvent PeerId → Prop
  | .written _ _ => True
  | .replaced _ => True
  | .removed => True
  | .readFails => True
  | _ => False

omit [DecidableEq PeerId] in
theorem undisturbed {event : HostEvent PeerId} (untouched : ¬ TouchesFile event)
    (readable : event ≠ .readFails) : ¬ DisturbsReading event := by
  cases event with
  | readFails => exact absurd rfl readable
  | written | replaced | removed => exact untouched
  | _ => exact id

/-- The path leads to this file, with this content. -/
def HoldsContent (file : Nat) (content : List UInt8) (files : GuardFiles) :
    Prop :=
  files.path = some file ∧ files.content file = content

/-- What is under way in the task is of this content. -/
def FreshPhase (file : Nat) (content : List UInt8) (list : Whitelist PeerId) :
    ReloadPhase PeerId → Prop
  | .reading opened got => opened = file ∧ got <+: content
  | .sending sent => sent = list
  | _ => True

/-- Nothing else is to be adopted. -/
def FreshMessage (list : Whitelist PeerId) (message : GuardControl PeerId) :
    Prop :=
  message = .reloadWhitelist list ∨
    message = .shutdown defaultShutdownGracePeriod

/-- The loop has adopted the list, and all that follows it is the list again. -/
structure SettledOn (file : Nat) (content : List UInt8)
    (list : Whitelist PeerId) (process : GuardProcess PeerId) : Prop where
  adopted : process.loop.authenticator.whitelist = list
  fresh : FreshPhase file content list process.reload
  queued : ∀ message ∈ process.channel.queue, FreshMessage list message

/-- The list is queued behind so many messages, and what follows it is the list
again. -/
structure QueuedAt (file : Nat) (content : List UInt8)
    (list : Whitelist PeerId) (place : Nat) (process : GuardProcess PeerId) :
    Prop where
  queued : ∃ front back,
    process.channel.queue = front ++ .reloadWhitelist list :: back ∧
      front.length = place ∧ ∀ message ∈ back, FreshMessage list message
  fresh : FreshPhase file content list process.reload

section Steps

variable {Multiaddr Namespace : Type} [PeerIdText PeerId]
  [PeerIdentity PeerId] [MultiaddrText Multiaddr] [NamespaceText Namespace]
  {toml : TomlEdit} {registry : TunnelRegistry PeerId}
  {process next : GuardProcess PeerId} {event : HostEvent PeerId}
  {actions : List (HostAction PeerId)} {file : Nat}
  {content : List UInt8} {list : Whitelist PeerId}

theorem files_step
    (step : HostStep Multiaddr Namespace toml registry process event next
      actions) (untouched : ¬ DisturbsReading event) :
    next.files = process.files := by
  cases step with
  | written | replaced | removed => exact absurd trivial untouched
  | readEnd count reading ended =>
      generalize Gateway.reload PeerId Multiaddr Namespace toml _ = outcome
      cases outcome with
      | refused error => rfl
      | reloadWhitelist list =>
          rw [GuardProcess.concludeReload, GuardProcess.claimReload]
          split <;> rfl
  | claimedStop signalled =>
      rw [GuardProcess.claimStop]
      split <;> rfl
  | _ => rfl

/-- A task that has read the whole content sends its list. -/
theorem FreshPhase.step
    (accepted : Gateway.reload PeerId Multiaddr Namespace toml content =
      .reloadWhitelist list)
    (holds : HoldsContent file content process.files)
    (fresh : FreshPhase file content list process.reload)
    (step : HostStep Multiaddr Namespace toml registry process event next
      actions) :
    FreshPhase file content list next.reload := by
  cases step with
  | received | missing | unreadable | pushedReload | refusedReload => trivial
  | opened opening path =>
      rw [holds.1] at path
      cases path
      exact ⟨rfl, List.nil_prefix⟩
  | readOn count reading left more =>
      rename_i opened got piece
      rw [reading] at fresh
      rcases fresh with ⟨rfl, rest, whole⟩
      refine ⟨rfl, ?_⟩
      rw [holds.2, ← whole, List.drop_left] at left
      rw [← left, ← whole]
      exact List.prefix_append_right_inj _ |>.mpr (List.take_prefix _ _)
  | readEnd count reading ended =>
      rename_i opened got
      rw [reading] at fresh
      rcases fresh with ⟨rfl, rest, whole⟩
      rw [holds.2, ← whole, List.drop_left] at ended
      rw [ended, List.append_nil] at whole
      rw [whole, accepted, GuardProcess.concludeReload,
        GuardProcess.claimReload]
      split
      · trivial
      · rfl
  | claimedStop signalled =>
      rw [GuardProcess.claimStop]
      split
      · exact fresh
      · exact fresh
  | _ => exact fresh

/-- The list that is adopted is not left again. -/
theorem SettledOn.step
    (accepted : Gateway.reload PeerId Multiaddr Namespace toml content =
      .reloadWhitelist list)
    (holds : HoldsContent file content process.files)
    (settled : SettledOn file content list process)
    (step : HostStep Multiaddr Namespace toml registry process event next
      actions) :
    SettledOn file content list next := by
  have fresh := settled.fresh.step accepted holds step
  cases step.queue with
  | kept other queue orders =>
      refine ⟨orders.whitelist.trans settled.adopted, fresh, ?_⟩
      rw [queue]
      exact settled.queued
  | reloads sending sent queue orders =>
      refine ⟨orders.whitelist.trans settled.adopted, fresh, ?_⟩
      have same := settled.fresh
      rw [sending] at same
      cases (same : _ = list)
      rw [queue]
      exact List.forall_mem_append.mpr ⟨settled.queued, by simp [FreshMessage]⟩
  | stops sending queue orders =>
      refine ⟨orders.whitelist.trans settled.adopted, fresh, ?_⟩
      rw [queue]
      exact List.forall_mem_append.mpr ⟨settled.queued, by simp [FreshMessage]⟩
  | received queue taken =>
      have queued := settled.queued
      rw [queue, List.forall_mem_cons] at queued
      refine ⟨?_, fresh, queued.2⟩
      rcases queued.1 with rfl | rfl
      · exact whitelist_of_reload taken
      · exact (orders_of_shutdown taken).1.trans settled.adopted

/-- A command that is received brings the list nearer, or is the list. -/
theorem QueuedAt.step {place : Nat}
    (accepted : Gateway.reload PeerId Multiaddr Namespace toml content =
      .reloadWhitelist list)
    (holds : HoldsContent file content process.files)
    (queued : QueuedAt file content list place process)
    (step : HostStep Multiaddr Namespace toml registry process event next
      actions) :
    (QueuedAt file content list place next ∧
        ∀ now, event ≠ .receive now) ∨
      (∃ smaller, smaller < place ∧
        QueuedAt file content list smaller next) ∨
        SettledOn file content list next := by
  have fresh := queued.fresh.step accepted holds step
  rcases queued with ⟨⟨front, back, line, length, behind⟩, still⟩
  cases step.queue with
  | kept other queue orders =>
      exact Or.inl ⟨⟨⟨front, back, queue.trans line, length, behind⟩, fresh⟩,
        other⟩
  | reloads sending sent queue orders =>
      rw [sending] at still
      cases (still : _ = list)
      refine Or.inl ⟨⟨⟨front, back ++ [.reloadWhitelist list], ?_, length, ?_⟩,
        fresh⟩, by simp⟩
      · rw [queue, line, List.append_assoc]
        rfl
      · exact List.forall_mem_append.mpr ⟨behind, by simp [FreshMessage]⟩
  | stops sending queue orders =>
      refine Or.inl ⟨⟨⟨front,
        back ++ [.shutdown defaultShutdownGracePeriod], ?_, length, ?_⟩,
        fresh⟩, by simp⟩
      · rw [queue, line, List.append_assoc]
        rfl
      · exact List.forall_mem_append.mpr ⟨behind, by simp [FreshMessage]⟩
  | received queue taken =>
      rw [line] at queue
      cases front with
      | nil =>
          cases queue
          exact Or.inr (Or.inr ⟨whitelist_of_reload taken, fresh, behind⟩)
      | cons first rest =>
          rw [List.cons_append, List.cons.injEq] at queue
          rcases queue with ⟨-, queue⟩
          refine Or.inr (Or.inl ⟨rest.length, ?_, ⟨rest, back, queue.symm, rfl,
            behind⟩, fresh⟩)
          rw [← length]
          exact Nat.lt_succ_self _

/-! ## What is under way -/

/-- The steps of the task of `spawn_reload_on_sighup`. -/
def OfReload : HostEvent PeerId → Prop
  | .receiveHangup => True
  | .openFile => True
  | .readFile _ => True
  | .readFails => True
  | .pushReload => True
  | .refuseReload => True
  | _ => False

/-- Where a step leaves the task. -/
inductive PhaseStep (process : GuardProcess PeerId) :
    HostEvent PeerId → ReloadPhase PeerId → Prop where
  | kept {event : HostEvent PeerId} (other : ¬ OfReload event) :
      PhaseStep process event process.reload
  | received (waiting : process.reload = .waiting) :
      PhaseStep process .receiveHangup .opening
  | opened {file : Nat} (opening : process.reload = .opening)
      (path : process.files.path = some file) :
      PhaseStep process .openFile (.reading file [])
  | missing (opening : process.reload = .opening)
      (path : process.files.path = none) :
      PhaseStep process .openFile .waiting
  | unreadable : PhaseStep process .readFails .waiting
  | readOn (count : Nat) {file : Nat} {got piece : List UInt8}
      (reading : process.reload = .reading file got)
      (left : (process.files.content file).drop got.length = piece)
      (more : piece ≠ []) :
      PhaseStep process (.readFile count)
        (.reading file (got ++ piece.take (count + 1)))
  | readEnd (count : Nat) {file : Nat} {got : List UInt8}
      {phase : ReloadPhase PeerId}
      (reading : process.reload = .reading file got)
      (ended : phase = .waiting ∨ (∃ list, phase = .sending list) ∨
        phase = .ended ∧ process.channel.closed = true) :
      PhaseStep process (.readFile count) phase
  | pushed {list : Whitelist PeerId}
      (sending : process.reload = .sending list)
      (granted : .reload ∈ process.channel.granted) :
      PhaseStep process .pushReload .waiting
  | refused {list : Whitelist PeerId}
      (sending : process.reload = .sending list)
      (closed : process.channel.closed = true) :
      PhaseStep process .refuseReload .ended

theorem HostStep.phase
    (step : HostStep Multiaddr Namespace toml registry process event next
      actions) :
    PhaseStep process event next.reload ∧
      (process.hangup = true → event ≠ .receiveHangup →
        next.hangup = true) := by
  cases step with
  | hungUp => exact ⟨.kept id, fun _ _ => rfl⟩
  | received waiting pending =>
      exact ⟨.received waiting, fun _ other => absurd rfl other⟩
  | opened opening path => exact ⟨.opened opening path, fun noted _ => noted⟩
  | missing opening path => exact ⟨.missing opening path, fun noted _ => noted⟩
  | unreadable loading => exact ⟨.unreadable, fun noted _ => noted⟩
  | readOn count reading left more =>
      exact ⟨.readOn count reading left more, fun noted _ => noted⟩
  | readEnd count reading ended =>
      generalize Gateway.reload PeerId Multiaddr Namespace toml _ = outcome
      cases outcome with
      | refused error =>
          exact ⟨.readEnd count reading (Or.inl rfl), fun noted _ => noted⟩
      | reloadWhitelist list =>
          rw [GuardProcess.concludeReload, GuardProcess.claimReload]
          split
          · next closed =>
              exact ⟨.readEnd count reading (Or.inr (Or.inr ⟨rfl, closed⟩)),
                fun noted _ => noted⟩
          · exact ⟨.readEnd count reading (Or.inr (Or.inl ⟨_, rfl⟩)),
              fun noted _ => noted⟩
  | pushedReload sending granted =>
      exact ⟨.pushed sending granted, fun noted _ => noted⟩
  | refusedReload sending closed waits =>
      exact ⟨.refused sending closed, fun noted _ => noted⟩
  | claimedStop signalled =>
      rw [GuardProcess.claimStop]
      split
      · exact ⟨.kept id, fun noted _ => noted⟩
      · exact ⟨.kept id, fun noted _ => noted⟩
  | _ => exact ⟨.kept id, fun noted _ => noted⟩

/-! The task, phase by phase. -/

theorem waiting_step (waiting : process.reload = .waiting)
    (step : HostStep Multiaddr Namespace toml registry process event next
      actions) :
    (next.reload = .waiting ∧ event ≠ .receiveHangup) ∨
      next.reload = .opening := by
  have moved := step.phase.1
  generalize next.reload = after at moved
  cases moved with
  | kept other =>
      refine Or.inl ⟨waiting, ?_⟩
      rintro rfl
      exact other trivial
  | received => exact Or.inr rfl
  | unreadable => exact Or.inl ⟨rfl, by simp⟩
  | opened opening | missing opening =>
      rw [waiting] at opening
      cases opening
  | readOn _ reading | readEnd _ reading =>
      rw [waiting] at reading
      cases reading
  | pushed sending | refused sending =>
      rw [waiting] at sending
      cases sending

theorem opening_step (opening : process.reload = .opening)
    (holds : HoldsContent file content process.files)
    (untouched : ¬ DisturbsReading event)
    (step : HostStep Multiaddr Namespace toml registry process event next
      actions) :
    (next.reload = .opening ∧ event ≠ .openFile ∧ event ≠ .readFails) ∨
      next.reload = .reading file [] := by
  have moved := step.phase.1
  generalize next.reload = after at moved
  cases moved with
  | kept other =>
      refine Or.inl ⟨opening, ?_, ?_⟩
      · rintro rfl
        exact other trivial
      · rintro rfl
        exact other trivial
  | opened _ path =>
      rw [holds.1] at path
      cases path
      exact Or.inr rfl
  | missing _ path =>
      rw [holds.1] at path
      cases path
  | unreadable => exact absurd trivial untouched
  | received waiting =>
      rw [opening] at waiting
      cases waiting
  | readOn _ reading | readEnd _ reading =>
      rw [opening] at reading
      cases reading
  | pushed sending | refused sending =>
      rw [opening] at sending
      cases sending

theorem sending_step {sent : Whitelist PeerId}
    (sending : process.reload = .sending sent)
    (untouched : ¬ DisturbsReading event)
    (step : HostStep Multiaddr Namespace toml registry process event next
      actions) :
    (next.reload = .sending sent ∧ event ≠ .pushReload) ∨
      (.reload ∈ process.channel.granted ∧ next.reload = .waiting) ∨
        process.channel.closed = true := by
  have moved := step.phase.1
  generalize next.reload = after at moved
  cases moved with
  | kept other =>
      refine Or.inl ⟨sending, ?_⟩
      rintro rfl
      exact other trivial
  | pushed _ granted => exact Or.inr (Or.inl ⟨granted, rfl⟩)
  | refused _ closed => exact Or.inr (Or.inr closed)
  | unreadable => exact absurd trivial untouched
  | received waiting =>
      rw [sending] at waiting
      cases waiting
  | opened opening | missing opening =>
      rw [sending] at opening
      cases opening
  | readOn _ reading | readEnd _ reading =>
      rw [sending] at reading
      cases reading

/-- A file is open, with so much left to read. -/
def ReadingAt (left : Nat) (process : GuardProcess PeerId) : Prop :=
  ∃ file got, process.reload = .reading file got ∧
    (process.files.content file).length - got.length = left

/-- Every piece is one more, and after the last the task is done reading. -/
theorem ReadingAt.step {left : Nat} (reading : ReadingAt left process)
    (untouched : ¬ DisturbsReading event)
    (step : HostStep Multiaddr Namespace toml registry process event next
      actions) :
    (ReadingAt left next ∧ ∀ count, event ≠ .readFile count) ∨
      (∃ smaller, smaller < left ∧ ReadingAt smaller next) ∨
        next.reload = .waiting ∨ (∃ sent, next.reload = .sending sent) ∨
          (next.reload = .ended ∧ process.channel.closed = true) := by
  rcases reading with ⟨file, got, reading, rfl⟩
  have files := files_step step untouched
  have moved := step.phase.1
  generalize phase : next.reload = after at moved
  cases moved with
  | kept other =>
      refine Or.inl ⟨⟨file, got, phase.trans reading, ?_⟩, ?_⟩
      · rw [files]
      · rintro count rfl
        exact other trivial
  | readOn count opened rest more =>
      rename_i again pieces piece
      rw [reading] at opened
      cases opened
      refine Or.inr (Or.inl ⟨_, ?_, file, _, phase, rfl⟩)
      rw [files, List.length_append, List.length_take]
      have positive := List.length_pos_of_ne_nil more
      have whole := congrArg List.length rest
      rw [List.length_drop] at whole
      omega
  | readEnd count opened ended => exact Or.inr (Or.inr ended)
  | unreadable => exact absurd trivial untouched
  | received waiting =>
      rw [reading] at waiting
      cases waiting
  | opened opening | missing opening =>
      rw [reading] at opening
      cases opening
  | pushed sending | refused sending =>
      rw [reading] at sending
      cases sending

/-- The content that was read to its end is accepted. -/
theorem FreshPhase.not_waiting {opened : Nat} {got : List UInt8}
    (accepted : Gateway.reload PeerId Multiaddr Namespace toml content =
      .reloadWhitelist list)
    (holds : HoldsContent file content process.files)
    (fresh : FreshPhase file content list process.reload)
    (reading : process.reload = .reading opened got)
    (untouched : ¬ DisturbsReading event)
    (step : HostStep Multiaddr Namespace toml registry process event next
      actions) :
    next.reload ≠ .waiting := by
  cases step with
  | received waiting pending => simp
  | opened | readOn => simp
  | missing opening path =>
      rw [reading] at opening
      cases opening
  | unreadable => exact absurd trivial untouched
  | readEnd count again ended =>
      rw [again] at fresh
      rcases fresh with ⟨rfl, rest, whole⟩
      rw [holds.2, ← whole, List.drop_left] at ended
      rw [ended, List.append_nil] at whole
      rw [whole, accepted, GuardProcess.concludeReload,
        GuardProcess.claimReload]
      split
      · simp
      · simp
  | pushedReload sending | refusedReload sending =>
      rw [reading] at sending
      cases sending
  | claimedStop signalled =>
      rw [GuardProcess.claimStop]
      split
      · exact fun waiting => by cases reading.symm.trans waiting
      · exact fun waiting => by cases reading.symm.trans waiting
  | _ => exact fun waiting => by cases reading.symm.trans waiting

/-- A busy task leaves the signal for later. -/
theorem hangup_kept (noted : process.hangup = true)
    (busy : process.reload ≠ .waiting)
    (step : HostStep Multiaddr Namespace toml registry process event next
      actions) :
    next.hangup = true := by
  refine step.phase.2 noted ?_
  rintro rfl
  have moved := step.phase.1
  generalize next.reload = after at moved
  cases moved with
  | kept other => exact other trivial
  | received waiting => exact busy waiting

/-- A place that was granted stays so while the task sends. -/
theorem granted_kept {sent : Whitelist PeerId}
    (sending : process.reload = .sending sent)
    (granted : .reload ∈ process.channel.granted)
    (still : next.reload = .sending sent)
    (step : HostStep Multiaddr Namespace toml registry process event next
      actions) :
    .reload ∈ next.channel.granted := by
  rcases step.channel with ⟨tick, moved⟩
  rcases moved.moves with ⟨messages, moves⟩
  rcases granted_step granted (stepChannel_step moves) with
    kept | ⟨message, rfl⟩
  · exact kept
  · have balance := moved.reload
    simp [sending, still] at balance

/-- A task that sent and waits again has pushed its list. -/
theorem pushed_queue {sent : Whitelist PeerId}
    (sending : process.reload = .sending sent)
    (waiting : next.reload = .waiting)
    (step : HostStep Multiaddr Namespace toml registry process event next
      actions) :
    next.channel.queue = process.channel.queue ++ [.reloadWhitelist sent] := by
  cases step with
  | pushedReload sends granted =>
      rw [sending] at sends
      cases sends
      rfl
  | missing opening path =>
      rw [sending] at opening
      cases opening
  | unreadable loading =>
      rw [sending] at loading
      rcases loading with opening | ⟨file, got, reading⟩
      · cases opening
      · cases reading
  | readEnd count reading ended =>
      rw [sending] at reading
      cases reading
  | received | opened | readOn | refusedReload => cases waiting
  | claimedStop signalled =>
      rw [GuardProcess.claimStop] at waiting
      split at waiting
      · cases sending.symm.trans waiting
      · cases sending.symm.trans waiting
  | _ => cases sending.symm.trans waiting

/-- The task ends only when nobody receives any more. -/
def Listening (process : GuardProcess PeerId) : Prop :=
  process.reload = .ended → process.channel.closed = true

theorem closed_kept
    (step : HostStep Multiaddr Namespace toml registry process event next
      actions) (closed : process.channel.closed = true) :
    next.channel.closed = true := by
  rcases step.channel with ⟨tick, moved⟩
  rcases moved.moves with ⟨messages, moves⟩
  exact (stepChannel_step moves).closed closed

theorem Listening.step (listening : Listening process)
    (step : HostStep Multiaddr Namespace toml registry process event next
      actions) :
    Listening next := by
  intro done
  refine closed_kept step ?_
  have moved := step.phase.1
  rw [done] at moved
  generalize phase : ReloadPhase.ended = after at moved
  cases moved with
  | kept other => exact listening phase.symm
  | readEnd count reading ended =>
      subst phase
      rcases ended with waiting | ⟨list, sending⟩ | ⟨-, closed⟩
      · cases waiting
      · cases sending
      · exact closed
  | refused sending closed => exact closed
  | _ => cases phase

end Steps

/-! ## The way of a signal -/

section Behaviors

variable {Multiaddr Namespace : Type} [PeerIdText PeerId]
  [PeerIdentity PeerId] [MultiaddrText Multiaddr] [NamespaceText Namespace]
  {toml : TomlEdit} {registry : TunnelRegistry PeerId}
  {behavior : Behavior (stepProcess Multiaddr Namespace toml registry)}
  {file : Nat} {content : List UInt8} {list : Whitelist PeerId}

/-- The file is left alone, every read of it works, and it holds this list. -/
structure LeftAlone
    (behavior : Behavior (stepProcess Multiaddr Namespace toml registry))
    (file : Nat) (content : List UInt8) (list : Whitelist PeerId) :
    Prop where
  wired : Wired (behavior.state 0)
  listening : Listening (behavior.state 0)
  scheduled : Scheduled behavior
  quiet : ∀ moment, ¬ DisturbsReading (behavior.event moment)
  holds : HoldsContent file content (behavior.state 0).files
  accepted : Gateway.reload PeerId Multiaddr Namespace toml content =
    .reloadWhitelist list

theorem LeftAlone.holds_always (alone : LeftAlone behavior file content list)
    (moment : Nat) :
    HoldsContent file content (behavior.state moment).files := by
  induction moment with
  | zero => exact alone.holds
  | succ moment induction =>
      rw [files_step (stepProcess_step (behavior.taken moment))
        (alone.quiet moment)]
      exact induction

theorem listening_always (listening : Listening (behavior.state 0))
    (moment : Nat) : Listening (behavior.state moment) := by
  induction moment with
  | zero => exact listening
  | succ moment induction =>
      exact induction.step (stepProcess_step (behavior.taken moment))

/-- The loop adopts the list, or returns before. -/
def Adopts (file : Nat) (content : List UInt8) (list : Whitelist PeerId)
    (process : GuardProcess PeerId) : Prop :=
  SettledOn file content list process ∨ process.channel.closed = true

/-- Weak fairness of a step that is possible while the channel is open. -/
theorem leadsTo_unless_closed
    {Before After : GuardProcess PeerId → Prop}
    {Taken : HostEvent PeerId → Prop}
    (fair : WeaklyFair behavior
      (fun process => Before process ∧ process.channel.closed = false) Taken)
    (progress : ∀ moment, Before (behavior.state moment) →
      (behavior.state moment).channel.closed = false →
        (Before (behavior.state (moment + 1)) ∧
            ¬ Taken (behavior.event moment)) ∨
          After (behavior.state (moment + 1))) :
    LeadsTo behavior Before fun process =>
      After process ∨ process.channel.closed = true := by
  have run : LeadsTo behavior
      (fun process => Before process ∧ process.channel.closed = false)
      (fun process => After process ∨ process.channel.closed = true) := by
    refine leadsTo_of_weaklyFair fair ?_
    rintro moment ⟨before, isOpen⟩
    rcases progress moment before isOpen with ⟨still, other⟩ | reached
    · by_cases closed : (behavior.state (moment + 1)).channel.closed = true
      · exact Or.inr (Or.inr closed)
      · exact Or.inl ⟨⟨still, (Bool.not_eq_true _).mp closed⟩, other⟩
    · exact Or.inr (Or.inl reached)
  intro moment before
  by_cases closed : (behavior.state moment).channel.closed = true
  · exact ⟨moment, Nat.le_refl _, Or.inr closed⟩
  · exact run moment ⟨before, (Bool.not_eq_true _).mp closed⟩

/-- The same of a step that lowers a rank. -/
theorem leadsTo_unless_closed_ofRank
    {Before : Nat → GuardProcess PeerId → Prop}
    {After : GuardProcess PeerId → Prop} {Taken : HostEvent PeerId → Prop}
    (fair : ∀ rank, WeaklyFair behavior
      (fun process => Before rank process ∧ process.channel.closed = false)
      Taken)
    (progress : ∀ rank moment, Before rank (behavior.state moment) →
      (behavior.state moment).channel.closed = false →
        (Before rank (behavior.state (moment + 1)) ∧
            ¬ Taken (behavior.event moment)) ∨
          (∃ smaller, smaller < rank ∧
              Before smaller (behavior.state (moment + 1))) ∨
            After (behavior.state (moment + 1))) :
    LeadsTo behavior (fun process => ∃ rank, Before rank process)
      fun process => After process ∨ process.channel.closed = true := by
  refine LeadsTo.ofRank fun rank => ?_
  have lowers : LeadsTo behavior (Before rank) fun process =>
      ((∃ smaller, smaller < rank ∧ Before smaller process) ∨
        After process) ∨ process.channel.closed = true :=
    leadsTo_unless_closed (fair rank) (progress rank)
  exact lowers.mono (fun _ here => here) fun _ reached => or_assoc.mp reached

/-- A queued list is adopted. -/
theorem LeftAlone.of_queued (alone : LeftAlone behavior file content list) :
    LeadsTo behavior
      (fun process => ∃ place, QueuedAt file content list place process)
      (Adopts file content list) := by
  refine leadsTo_unless_closed_ofRank
    (fun place => alone.scheduled.receives.weaken ?_) ?_
  · rintro process ⟨⟨⟨front, back, line, -⟩, -⟩, isOpen⟩
    refine ⟨isOpen, ?_⟩
    rw [line]
    exact List.append_ne_nil_of_right_ne_nil _ (List.cons_ne_nil _ _)
  · intro place moment queued _
    rcases queued.step alone.accepted (alone.holds_always moment)
        (stepProcess_step (behavior.taken moment)) with
      ⟨still, other⟩ | further
    · refine Or.inl ⟨still, ?_⟩
      rintro ⟨now, receives⟩
      exact other now receives
    · exact Or.inr further

/-- A task that sends gets its place, pushes, and waits for signals again. -/
theorem LeftAlone.pushes (alone : LeftAlone behavior file content list)
    {sent : Whitelist PeerId} {Before After : GuardProcess PeerId → Prop}
    (stays : ∀ moment, Before (behavior.state moment) →
      (behavior.state moment).reload = .sending sent →
        (behavior.state (moment + 1)).reload = .sending sent →
          Before (behavior.state (moment + 1)))
    (leaves : ∀ moment, Before (behavior.state moment) →
      (behavior.state moment).reload = .sending sent →
        (behavior.state (moment + 1)).reload = .waiting →
          After (behavior.state (moment + 1))) :
    LeadsTo behavior
      (fun process => process.reload = .sending sent ∧ Before process)
      fun process => After process ∨ process.channel.closed = true := by
  have waits : LeadsTo behavior
      (fun process => process.reload = .sending sent ∧ Before process)
      fun process =>
        ((process.reload = .sending sent ∧ Before process) ∧
          .reload ∈ process.channel.granted) ∨
            process.channel.closed = true := by
    refine sends_leadsTo_granted alone.wired alone.scheduled ?_ ?_
    · rintro process wired ⟨sending, -⟩
      rw [wired.reload, GuardProcess.reloadSends, sending]
      exact Nat.one_pos
    · rintro moment ⟨sending, before⟩ none isOpen
      rcases sending_step sending (alone.quiet moment)
          (stepProcess_step (behavior.taken moment)) with
        ⟨still, -⟩ | ⟨granted, -⟩ | closed
      · exact ⟨still, stays moment before sending still⟩
      · exact absurd granted none
      · rw [isOpen] at closed
        cases closed
  have pushes : LeadsTo behavior
      (fun process =>
        (process.reload = .sending sent ∧ Before process) ∧
          .reload ∈ process.channel.granted)
      fun process => After process ∨ process.channel.closed = true := by
    refine leadsTo_unless_closed
      (alone.scheduled.pushesReload.weaken fun _ here => here.1.2) ?_
    rintro moment ⟨⟨sending, before⟩, granted⟩ isOpen
    have step := stepProcess_step (behavior.taken moment)
    rcases sending_step sending (alone.quiet moment) step with
      ⟨still, other⟩ | ⟨-, waiting⟩ | closed
    · exact Or.inl ⟨⟨⟨still, stays moment before sending still⟩,
        granted_kept sending granted still step⟩, other⟩
    · exact Or.inr (leaves moment before sending waiting)
    · rw [isOpen] at closed
      cases closed
  exact waits.trans (pushes.or
    ((LeadsTo.refl behavior _).mono (fun _ here => here) fun _ => Or.inr))

theorem LeftAlone.of_sending (alone : LeftAlone behavior file content list) :
    LeadsTo behavior (fun process => process.reload = .sending list)
      (Adopts file content list) := by
  have pushes : LeadsTo behavior
      (fun process => process.reload = .sending list ∧ True)
      fun process => (∃ place, QueuedAt file content list place process) ∨
        process.channel.closed = true := by
    refine alone.pushes (fun _ _ _ _ => trivial) ?_
    intro moment _ sending waiting
    refine ⟨_, ⟨_, [], pushed_queue sending waiting
      (stepProcess_step (behavior.taken moment)), rfl, by simp⟩, ?_⟩
    rw [waiting]
    trivial
  refine LeadsTo.trans (pushes.mono (fun _ here => ⟨here, trivial⟩)
    fun _ => id) ?_
  exact alone.of_queued.or
    ((LeadsTo.refl behavior _).mono (fun _ here => here) fun _ => Or.inr)

/-- A reading of the file that is left alone ends in its list. -/
theorem LeftAlone.of_reading (alone : LeftAlone behavior file content list) :
    LeadsTo behavior
      (fun process => ∃ left, ReadingAt left process ∧
        FreshPhase file content list process.reload)
      fun process =>
        process.reload = .sending list ∨ process.channel.closed = true := by
  refine leadsTo_unless_closed_ofRank
    (fun left => alone.scheduled.reads.weaken ?_) ?_
  · rintro process ⟨⟨⟨opened, got, reading, -⟩, -⟩, -⟩
    exact ⟨opened, got, reading⟩
  · rintro left moment ⟨reading, fresh⟩ isOpen
    have step := stepProcess_step (behavior.taken moment)
    have later := fresh.step alone.accepted (alone.holds_always moment) step
    rcases reading.step (alone.quiet moment) step with
      ⟨still, other⟩ | ⟨smaller, less, further⟩ | waiting |
        ⟨sent, sending⟩ | ⟨-, closed⟩
    · refine Or.inl ⟨⟨still, later⟩, ?_⟩
      rintro (⟨count, reads⟩ | fails)
      · exact other count reads
      · exact alone.quiet moment (by rw [fails]; trivial)
    · exact Or.inr (Or.inl ⟨smaller, less, further, later⟩)
    · rcases reading with ⟨opened, got, reading, -⟩
      exact absurd waiting (fresh.not_waiting alone.accepted
        (alone.holds_always moment) reading (alone.quiet moment) step)
    · rw [sending] at later
      cases (later : sent = list)
      exact Or.inr (Or.inr sending)
    · rw [isOpen] at closed
      cases closed

theorem LeftAlone.of_opening (alone : LeftAlone behavior file content list) :
    LeadsTo behavior (fun process => process.reload = .opening)
      fun process => ∃ left, ReadingAt left process ∧
        FreshPhase file content list process.reload := by
  refine leadsTo_of_weaklyFair alone.scheduled.opens ?_
  intro moment opening
  rcases opening_step opening (alone.holds_always moment) (alone.quiet moment)
      (stepProcess_step (behavior.taken moment)) with
    ⟨still, closedFile, read⟩ | reading
  · refine Or.inl ⟨still, ?_⟩
    rintro (opens | fails)
    · exact closedFile opens
    · exact read fails
  · refine Or.inr ⟨_, ⟨file, [], reading, rfl⟩, ?_⟩
    rw [reading]
    exact ⟨rfl, List.nil_prefix⟩

/-- A task that waits opens the file for the signal that was noted. -/
theorem LeftAlone.of_waiting (alone : LeftAlone behavior file content list) :
    LeadsTo behavior
      (fun process => process.reload = .waiting ∧ process.hangup = true)
      fun process => process.reload = .opening := by
  refine leadsTo_of_weaklyFair alone.scheduled.hangups ?_
  rintro moment ⟨waiting, noted⟩
  have step := stepProcess_step (behavior.taken moment)
  rcases waiting_step waiting step with ⟨still, other⟩ | opening
  · exact Or.inl ⟨⟨still, step.phase.2 noted other⟩, other⟩
  · exact Or.inr opening

/-- A reading of any file ends, and the signal that was noted stays. -/
theorem LeftAlone.of_stale (alone : LeftAlone behavior file content list) :
    LeadsTo behavior
      (fun process => ∃ left, ReadingAt left process ∧ process.hangup = true)
      fun process =>
        ((process.reload = .waiting ∧ process.hangup = true) ∨
          ∃ sent, process.reload = .sending sent ∧ process.hangup = true) ∨
            process.channel.closed = true := by
  refine leadsTo_unless_closed_ofRank
    (fun left => alone.scheduled.reads.weaken ?_) ?_
  · rintro process ⟨⟨⟨opened, got, reading, -⟩, -⟩, -⟩
    exact ⟨opened, got, reading⟩
  · rintro left moment ⟨reading, noted⟩ isOpen
    have step := stepProcess_step (behavior.taken moment)
    have busy : (behavior.state moment).reload ≠ .waiting := by
      rcases reading with ⟨opened, got, reading, -⟩
      rw [reading]
      simp
    have still := hangup_kept noted busy step
    rcases reading.step (alone.quiet moment) step with
      ⟨here, other⟩ | ⟨smaller, less, further⟩ | waiting |
        ⟨sent, sending⟩ | ⟨-, closed⟩
    · refine Or.inl ⟨⟨here, still⟩, ?_⟩
      rintro (⟨count, reads⟩ | fails)
      · exact other count reads
      · exact alone.quiet moment (by rw [fails]; trivial)
    · exact Or.inr (Or.inl ⟨smaller, less, further, still⟩)
    · exact Or.inr (Or.inr (Or.inl ⟨waiting, still⟩))
    · exact Or.inr (Or.inr (Or.inr ⟨sent, sending, still⟩))
    · rw [isOpen] at closed
      cases closed

theorem LeftAlone.adopts_of_opening
    (alone : LeftAlone behavior file content list) :
    LeadsTo behavior (fun process => process.reload = .opening)
      (Adopts file content list) :=
  alone.of_opening.trans (alone.of_reading.trans (alone.of_sending.or
    ((LeadsTo.refl behavior _).mono (fun _ here => here) fun _ => Or.inr)))

theorem LeftAlone.adopts_of_waiting
    (alone : LeftAlone behavior file content list) :
    LeadsTo behavior
      (fun process => (process.reload = .waiting ∧ process.hangup = true) ∨
        process.channel.closed = true)
      (Adopts file content list) :=
  (alone.of_waiting.trans alone.adopts_of_opening).or
    ((LeadsTo.refl behavior _).mono (fun _ here => here) fun _ => Or.inr)

/-- A send of an older list is over before the signal is received. -/
theorem LeftAlone.adopts_of_stale
    (alone : LeftAlone behavior file content list) :
    LeadsTo behavior
      (fun process => ∃ sent, process.reload = .sending sent ∧
        process.hangup = true)
      (Adopts file content list) := by
  refine LeadsTo.ofExists fun sent =>
    LeadsTo.trans (alone.pushes ?_ ?_) alone.adopts_of_waiting
  · intro moment noted sending still
    refine hangup_kept noted ?_ (stepProcess_step (behavior.taken moment))
    rw [sending]
    simp
  · intro moment noted sending waiting
    refine ⟨waiting, hangup_kept noted ?_
      (stepProcess_step (behavior.taken moment))⟩
    rw [sending]
    simp

/-- A signal that was noted makes the loop adopt the list. -/
theorem LeftAlone.adopts (alone : LeftAlone behavior file content list) :
    LeadsTo behavior (fun process => process.hangup = true)
      (Adopts file content list) := by
  intro moment noted
  cases phase : (behavior.state moment).reload with
  | waiting =>
      exact alone.adopts_of_waiting moment (Or.inl ⟨phase, noted⟩)
  | opening => exact alone.adopts_of_opening moment phase
  | reading opened got =>
      rcases alone.of_stale moment ⟨_, ⟨opened, got, phase, rfl⟩, noted⟩ with
        ⟨later, since, (waiting | sending) | closed⟩
      · rcases alone.adopts_of_waiting later (Or.inl waiting) with
          ⟨settled, after, adopts⟩
        exact ⟨settled, since.trans after, adopts⟩
      · rcases alone.adopts_of_stale later sending with
          ⟨settled, after, adopts⟩
        exact ⟨settled, since.trans after, adopts⟩
      · exact ⟨later, since, Or.inr closed⟩
  | sending sent => exact alone.adopts_of_stale moment ⟨sent, phase, noted⟩
  | ended =>
      exact ⟨moment, Nat.le_refl _,
        Or.inr (listening_always alone.listening moment phase)⟩

/-- What is adopted stays adopted. -/
theorem LeftAlone.adopts_kept (alone : LeftAlone behavior file content list)
    (moment : Nat) (adopts : Adopts file content list (behavior.state moment)) :
    Adopts file content list (behavior.state (moment + 1)) := by
  have step := stepProcess_step (behavior.taken moment)
  rcases adopts with settled | closed
  · exact Or.inl (settled.step alone.accepted (alone.holds_always moment) step)
  · exact Or.inr (closed_kept step closed)

/-! ## Sessions of the process -/

theorem loop_step {process next : GuardProcess PeerId}
    {event : HostEvent PeerId} {actions : List (HostAction PeerId)}
    (step : HostStep Multiaddr Namespace toml registry process event next
      actions) :
    next.loop = process.loop ∨ ∃ happened logged,
      runGuardLoop registry process.loop happened =
        some (next.loop, logged) := by
  cases step with
  | readEnd count reading ended =>
      exact Or.inl (concludeReload_queue process _).2
  | claimedStop signalled => exact Or.inl (claimStop_queue process).2
  | commanded now isOpen popped taken => exact Or.inr ⟨_, _, taken⟩
  | looped other last taken => exact Or.inr ⟨_, _, taken⟩
  | _ => exact Or.inl rfl

theorem session_listed_always
    (begins : ∀ peer, (behavior.state 0).loop.HasSession peer →
      (behavior.state 0).loop.Listed peer)
    (moment : Nat) {peer : PeerId}
    (session : (behavior.state moment).loop.HasSession peer) :
    (behavior.state moment).loop.Listed peer := by
  induction moment generalizing peer with
  | zero => exact begins peer session
  | succ moment induction =>
      rcases loop_step (stepProcess_step (behavior.taken moment)) with
        same | ⟨happened, logged, taken⟩
      · rw [same] at session ⊢
        exact induction session
      · exact (runGuardLoop_step taken).session_listed
          (fun _ => induction) session

end Behaviors

section Convergence

variable {Multiaddr Namespace : Type} [PeerIdText PeerId]
  [PeerIdentity PeerId] [MultiaddrText Multiaddr] [NamespaceText Namespace]
  {toml : TomlEdit}

omit [PeerIdentity PeerId] in
theorem reload_of_load {config : GuardConfig PeerId Multiaddr Namespace}
    {content : List UInt8}
    (loaded : load toml (utf8String? content) = .ok config) :
    Gateway.reload PeerId Multiaddr Namespace toml content =
      .reloadWhitelist config.whitelist := by
  rw [Gateway.reload, loaded]

/--
A SIGHUP is not lost: once the file holds an accepted configuration, nobody
touches it and no read of it fails, a signal makes the Guard adopt its whitelist
for good, whatever was under way, and no peer outside it keeps a session.
-/
theorem reload_converges
    {config renewed : GuardConfig PeerId Multiaddr Namespace}
    {files : GuardFiles} {interrupts : Bool} {metrics : Metrics}
    {connections : List (Connection PeerId)}
    {behavior : Behavior
      (stepProcess Multiaddr Namespace toml (guardRegistry config))}
    (begins : behavior.state 0 =
      startGuard config files true interrupts metrics connections)
    (scheduled : Scheduled behavior) {moment file : Nat}
    (signalled : behavior.event moment = .sighup)
    (path : (behavior.state moment).files.path = some file)
    (accepted :
      load toml (utf8String? ((behavior.state moment).files.content file)) =
        .ok renewed)
    (untouched : ∀ later, moment ≤ later →
      ¬ TouchesFile (behavior.event later))
    (readable : ∀ later, moment ≤ later →
      behavior.event later ≠ .readFails) :
    ∃ settled, moment ≤ settled ∧ ∀ later, settled ≤ later →
      (behavior.state later).loop.running = true →
        (behavior.state later).loop.authenticator.whitelist =
            renewed.whitelist ∧
          ∀ peer, (behavior.state later).loop.HasSession peer →
            ∃ roles, renewed.whitelist.roles peer = some roles := by
  have wired : Wired (behavior.state 0) := by
    rw [begins]
    exact wired_start files true interrupts rfl
  have listening : Listening (behavior.state 0) := by
    rw [begins]
    exact fun ended => by cases ended
  have listed : ∀ peer, (behavior.state 0).loop.HasSession peer →
      (behavior.state 0).loop.Listed peer := by
    rw [begins]
    rintro peer ⟨roles, found⟩
    cases found
  have alone : LeftAlone (behavior.onward moment) file
      ((behavior.state moment).files.content file) renewed.whitelist := {
    wired := wired_always wired moment
    listening := listening_always listening moment
    scheduled := scheduled.onward moment
    quiet := fun later =>
      undisturbed (untouched (moment + later) (Nat.le_add_right _ _))
        (readable (moment + later) (Nat.le_add_right _ _))
    holds := ⟨path, rfl⟩
    accepted := reload_of_load accepted }
  have noted : ((behavior.onward moment).state 1).hangup = true := by
    have taken := behavior.taken moment
    rw [signalled] at taken
    exact congrArg (fun result => result.1.hangup) (Option.some.inj taken.symm)
  rcases alone.adopts.always alone.adopts_kept noted with
    ⟨settled, since, always⟩
  refine ⟨moment + settled, Nat.le_add_right _ _, ?_⟩
  intro later after running
  have same : moment + (later - moment) = later := by omega
  have adopts := always (later - moment) (by omega)
  simp only [Behavior.onward, same] at adopts
  rcases adopts with reached | closed
  · refine ⟨reached.adopted, fun peer session => ?_⟩
    have live := session_listed_always listed later session
    rw [GuardLoop.Listed, reached.adopted] at live
    exact live
  · rw [(wired_always wired later).closed, running] at closed
    cases closed

end Convergence

section SmallProcess

/-- A Guard that admits one peer, as it is started. -/
def smallConfig : GuardConfig BytePeer PlainText PlainText :=
  ⟨⟨defaultListen⟩, 30, 60, [], Whitelist.new.allow ⟨1⟩ ["reader"], [], [],
    none, none⟩

/-- There is no file. -/
def smallFiles : GuardFiles := ⟨fun _ => [], 0, none, GuardFiles.within_none⟩

/-- The Guard of the small configuration, as it starts. -/
def smallProcess : GuardProcess BytePeer :=
  startGuard smallConfig smallFiles true true {} []

/-- The operator empties the file and sends a SIGHUP. -/
def emptiesFile : List (HostEvent BytePeer) :=
  [.replaced [], .sighup, .receiveHangup, .openFile, .readFile 0, .pushReload,
    .receive 0]

/-- An event that changes nothing. -/
def idleEvent : HostEvent BytePeer := .loop .otherSwarmEvent

theorem load_empty :
    load blankToml (utf8String? []) =
      .ok (⟨⟨defaultListen⟩, 30, 60, [], Whitelist.new, [], [], none, none⟩ :
        GuardConfig BytePeer PlainText PlainText) := by
  have decoded : utf8String? [] = some "" := utf8String?_utf8Bytes ""
  have parsed : blankFromStr "" = some blankRoot := if_pos rfl
  rw [decoded]
  exact load_eq_ok_iff.mpr ⟨blankRoot, _, parsed, rfl, rfl⟩

/-- Nothing is under way and nothing is asked for. -/
structure AtRest (process : GuardProcess BytePeer) : Prop where
  hangup : process.hangup = false
  reload : process.reload = .waiting
  stop : process.stop = .waiting
  channel : process.channel = .empty
  deadline : process.loop.shutdownDeadline = none
  idles : stepProcess PlainText PlainText blankToml
    (guardRegistry smallConfig) process idleEvent = some (process, [])

theorem smallProcess_run :
    ∃ taken finish,
      Run (stepProcess PlainText PlainText blankToml
          (guardRegistry smallConfig)) smallProcess taken finish ∧
        taken.map Transition.event = emptiesFile ∧ AtRest finish ∧
          taken[1]?.map (fun second => (second.before.files.path,
            second.before.files.content 0)) = some (some 0, []) := by
  have reads : ∀ process : GuardProcess BytePeer,
      process.reload = .reading 0 [] → process.files.content 0 = [] →
        stepProcess PlainText PlainText blankToml (guardRegistry smallConfig)
          process (.readFile 0) =
            some (process.claimReload Whitelist.new,
              [.loaded [] (.reloadWhitelist Whitelist.new)]) := by
    intro process reading empty
    simp only [stepProcess, stepReload, reading, readPiece, empty,
      List.drop_nil, reload_of_load load_empty]
    rfl
  let opened : GuardProcess BytePeer :=
    { smallProcess with
      files := smallFiles.replace []
      reload := .reading 0 [] }
  have read := reads opened rfl rfl
  exact ⟨_, _, Run.cons rfl (Run.cons rfl (Run.cons rfl (Run.cons rfl
    (Run.cons read (Run.cons rfl (Run.cons rfl .start)))))),
    rfl, ⟨rfl, rfl, rfl, rfl, rfl, rfl⟩, rfl⟩

theorem scheduled_of_rest {finish : GuardProcess BytePeer}
    {taken : List (HostTransition BytePeer)} {idle : HostEvent BytePeer}
    {behavior : Behavior (stepProcess PlainText PlainText blankToml
      (guardRegistry smallConfig))}
    (rest : AtRest finish) (rests : RestsAfter behavior taken finish idle) :
    Scheduled behavior where
  hangups := rests.weaklyFair (by simp [rest.hangup])
  opens := rests.weaklyFair (by simp [rest.reload])
  reads := rests.weaklyFair (by simp [rest.reload])
  pushesReload := rests.weaklyFair (by simp [rest.channel, Channel.empty])
  claims := rests.weaklyFair (by simp [rest.stop])
  pushesStop := rests.weaklyFair (by simp [rest.channel, Channel.empty])
  receives := rests.weaklyFair (by simp [rest.channel, Channel.empty])
  ticks _ := rests.weaklyFair (by simp [rest.deadline])

/-- After the signal the list of the empty file is in force for good. -/
theorem reload_converges_small :
    ∃ behavior : Behavior (stepProcess PlainText PlainText blankToml
        (guardRegistry smallConfig)),
      behavior.state 0 = smallProcess ∧ Scheduled behavior ∧
        behavior.event 1 = .sighup ∧
          ∃ settled, 1 ≤ settled ∧ ∀ later, settled ≤ later →
            (behavior.state later).loop.running = true →
              (behavior.state later).loop.authenticator.whitelist =
                Whitelist.new := by
  rcases smallProcess_run with ⟨taken, finish, run, events, rest, second⟩
  rcases exists_restsAfter run rest.idles with ⟨behavior, begins, rests⟩
  have scheduled := scheduled_of_rest rest rests
  have happens : ∀ moment,
      behavior.event moment = emptiesFile[moment]?.getD idleEvent := by
    intro moment
    rw [← events, List.getElem?_map]
    cases here : taken[moment]? with
    | none =>
        exact (rests.rests moment (List.getElem?_eq_none_iff.mp here)).2
    | some transition => exact (rests.ran moment transition here).2
  rcases Option.map_eq_some_iff.mp second with ⟨signal, here, holds⟩
  have before := (rests.ran 1 signal here).1
  rw [Prod.mk.injEq, ← before] at holds
  have untouched : ∀ later, 1 ≤ later →
      ¬ TouchesFile (behavior.event later) := by
    intro later after
    rcases Nat.exists_eq_add_of_le' after with ⟨index, rfl⟩
    rw [happens, emptiesFile, List.getElem?_cons_succ]
    intro touched
    rcases index with _ | _ | _ | _ | _ | _ | index <;> exact touched
  have readable : ∀ later, 1 ≤ later →
      behavior.event later ≠ .readFails := by
    intro later after
    rcases Nat.exists_eq_add_of_le' after with ⟨index, rfl⟩
    rw [happens, emptiesFile, List.getElem?_cons_succ]
    intro failed
    rcases index with _ | _ | _ | _ | _ | _ | index <;> cases failed
  rcases reload_converges begins scheduled (happens 1) holds.1
      (by rw [holds.2]; exact load_empty) untouched readable with
    ⟨settled, after, always⟩
  exact ⟨behavior, begins, scheduled, happens 1, settled, after,
    fun later since running => (always later since running).1⟩

end SmallProcess

end NuxAuth.Gateway
