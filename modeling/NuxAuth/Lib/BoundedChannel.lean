import NuxAuth.Lib.FairBehavior

/-!
# Channels of bounded capacity

A sender claims a place first and pushes its message once the place is granted;
when all places are taken it waits, and each message that is received hands its
place to the first of those who wait.  A place is either that of a queued
message or that of a sender about to push.

If the receiver keeps receiving and every sender that was granted a place uses
it, no sender waits for ever: those before it are finitely many, and whoever
comes later stands behind it.
-/

namespace NuxAuth.Lib.BoundedChannel

open NuxAuth.Lib.FairBehavior NuxAuth.Lib.RecordedRun

universe u v

variable {Sender : Type u} {Message : Type v}

/-- A channel: what is queued, and who stands in it. -/
structure Channel (Sender : Type u) (Message : Type v) where
  queue : List Message
  /-- those who hold a place and have not pushed yet -/
  granted : List Sender
  /-- those who wait for a place, first come first served -/
  waiting : List Sender
  /-- the receiver is gone -/
  closed : Bool

/-- The operations on a channel. -/
inductive ChannelEvent (Sender : Type u) (Message : Type v) where
  | claim (sender : Sender)
  | push (sender : Sender) (message : Message)
  | pop
  /-- a sender that waits learns that the receiver is gone -/
  | refuse (sender : Sender)
  | close
  | idle

namespace Channel

/-- Nothing was sent yet. -/
def empty : Channel Sender Message := ⟨[], [], [], false⟩

/-- The places that are taken. -/
def used (channel : Channel Sender Message) : Nat :=
  channel.queue.length + channel.granted.length

/-- A place at once if there is one, else a place in the line. -/
def claim (capacity : Nat) (channel : Channel Sender Message)
    (sender : Sender) : Channel Sender Message :=
  if channel.used < capacity then
    { channel with granted := channel.granted ++ [sender] }
  else
    { channel with waiting := channel.waiting ++ [sender] }

/-- The freed place goes to the first in the line. -/
def release (channel : Channel Sender Message) : Channel Sender Message :=
  match channel.waiting with
  | [] => channel
  | first :: rest =>
      { channel with granted := channel.granted ++ [first], waiting := rest }

/-- The oldest message is taken, and its place is free again. -/
def pop (channel : Channel Sender Message) :
    Option (Message × Channel Sender Message) :=
  match channel.queue with
  | [] => none
  | message :: rest => some (message, release { channel with queue := rest })

variable [DecidableEq Sender]

/-- Whoever holds a place pushes, even if nobody receives any more. -/
def push (channel : Channel Sender Message) (sender : Sender)
    (message : Message) : Option (Channel Sender Message) :=
  if sender ∈ channel.granted then
    some { channel with
      queue := channel.queue ++ [message]
      granted := channel.granted.erase sender }
  else
    none

end Channel

/-- One operation on a channel. -/
def stepChannel [DecidableEq Sender] (capacity : Nat) :
    Step (Channel Sender Message) (ChannelEvent Sender Message) Message :=
  fun channel event =>
    match event with
    | .claim sender =>
        if channel.closed then none
        else some (channel.claim capacity sender, [])
    | .push sender message =>
        (channel.push sender message).map fun next => (next, [])
    | .pop =>
        if channel.closed then none
        else channel.pop.map fun (message, next) => (next, [message])
    | .refuse sender =>
        if channel.closed ∧ sender ∈ channel.waiting then
          some ({ channel with waiting := channel.waiting.erase sender }, [])
        else
          none
    | .close => some ({ channel with closed := true }, [])
    | .idle => some (channel, [])

/-! ## What an operation can do -/

/-- The operations, each with its guard and its effect. -/
inductive ChannelStep [DecidableEq Sender] (capacity : Nat)
    (channel : Channel Sender Message) :
    ChannelEvent Sender Message → Channel Sender Message → Prop where
  | granted (sender : Sender) (isOpen : channel.closed = false)
      (free : channel.used < capacity) :
      ChannelStep capacity channel (.claim sender)
        { channel with granted := channel.granted ++ [sender] }
  | waits (sender : Sender) (isOpen : channel.closed = false)
      (full : capacity ≤ channel.used) :
      ChannelStep capacity channel (.claim sender)
        { channel with waiting := channel.waiting ++ [sender] }
  | pushed (sender : Sender) (message : Message)
      (holds : sender ∈ channel.granted) :
      ChannelStep capacity channel (.push sender message)
        { channel with
          queue := channel.queue ++ [message]
          granted := channel.granted.erase sender }
  | popped {message : Message} {rest : List Message}
      (isOpen : channel.closed = false)
      (queued : channel.queue = message :: rest)
      (nobody : channel.waiting = []) :
      ChannelStep capacity channel .pop { channel with queue := rest }
  | handed {message : Message} {rest : List Message} {first : Sender}
      {line : List Sender} (isOpen : channel.closed = false)
      (queued : channel.queue = message :: rest)
      (waiting : channel.waiting = first :: line) :
      ChannelStep capacity channel .pop
        ⟨rest, channel.granted ++ [first], line, false⟩
  | refused (sender : Sender) (closed : channel.closed = true)
      (waits : sender ∈ channel.waiting) :
      ChannelStep capacity channel (.refuse sender)
        { channel with waiting := channel.waiting.erase sender }
  | closes : ChannelStep capacity channel .close { channel with closed := true }
  | idles : ChannelStep capacity channel .idle channel

section Steps

variable [DecidableEq Sender] {capacity : Nat}
  {channel next : Channel Sender Message}
  {event : ChannelEvent Sender Message} {messages : List Message}

theorem stepChannel_step
    (taken : stepChannel capacity channel event = some (next, messages)) :
    ChannelStep capacity channel event next := by
  cases event with
  | claim sender =>
      simp only [stepChannel, Channel.claim] at taken
      split at taken
      · cases taken
      · next isOpen =>
          split at taken
          · next free =>
              cases taken
              exact .granted sender ((Bool.not_eq_true _).mp isOpen) free
          · next full =>
              cases taken
              exact .waits sender ((Bool.not_eq_true _).mp isOpen)
                (Nat.le_of_not_lt full)
  | push sender message =>
      simp only [stepChannel, Channel.push] at taken
      split at taken
      · next holds =>
          cases taken
          exact .pushed sender message holds
      · cases taken
  | pop =>
      rcases channel with ⟨queue, granted, waiting, closed⟩
      simp only [stepChannel, Channel.pop] at taken
      split at taken
      · cases taken
      · next isOpen =>
          cases (Bool.not_eq_true _).mp isOpen
          cases queue with
          | nil => cases taken
          | cons message rest =>
              cases waiting with
              | nil =>
                  cases taken
                  exact .popped rfl rfl rfl
              | cons first line =>
                  cases taken
                  exact .handed rfl rfl rfl
  | refuse sender =>
      simp only [stepChannel] at taken
      split at taken
      · next refused =>
          cases taken
          exact .refused sender refused.1 refused.2
      · cases taken
  | close =>
      cases taken
      exact .closes
  | idle =>
      cases taken
      exact .idles

end Steps

/-- The receiver does not come back. -/
theorem ChannelStep.closed [DecidableEq Sender] {capacity : Nat}
    {channel next : Channel Sender Message}
    {event : ChannelEvent Sender Message}
    (step : ChannelStep capacity channel event next)
    (closed : channel.closed = true) : next.closed = true := by
  cases step with
  | granted _ isOpen | waits _ isOpen | popped isOpen | handed isOpen =>
      rw [closed] at isOpen
      cases isOpen
  | closes => rfl
  | pushed | refused | idles => exact closed

/-! ## Every place is accounted for -/

/-- The capacity is kept, and no place is kept from who waits for it. -/
structure Sound (capacity : Nat) (channel : Channel Sender Message) :
    Prop where
  within : channel.used ≤ capacity
  /-- nobody waits while a place is free -/
  busy : channel.waiting ≠ [] → channel.used = capacity

theorem Sound.empty (capacity : Nat) :
    Sound capacity (Channel.empty : Channel Sender Message) where
  within := Nat.zero_le _
  busy nobody := absurd rfl nobody

section Sound

variable [DecidableEq Sender] {capacity : Nat}
  {channel next : Channel Sender Message}
  {event : ChannelEvent Sender Message}

theorem Sound.step (step : ChannelStep capacity channel event next)
    (sound : Sound capacity channel) : Sound capacity next := by
  have within := sound.within
  have busy := sound.busy
  rw [Channel.used] at within busy
  cases step with
  | granted sender isOpen free =>
      rw [Channel.used] at free
      constructor
      · simp only [Channel.used, List.length_append, List.length_singleton]
        omega
      · intro someone
        have full := busy someone
        omega
  | waits sender isOpen full => exact ⟨within, fun _ => by
      rw [Channel.used] at full ⊢
      exact Nat.le_antisymm within full⟩
  | pushed sender message holds =>
      have left := List.length_erase_of_mem holds
      have some := List.length_pos_of_mem holds
      have same : (channel.queue ++ [message]).length +
          (channel.granted.erase sender).length =
            channel.queue.length + channel.granted.length := by
        rw [List.length_append, List.length_singleton, left]
        omega
      exact ⟨by rw [Channel.used, same]; exact within,
        fun someone => by rw [Channel.used, same]; exact busy someone⟩
  | popped isOpen queued nobody =>
      rw [queued, List.length_cons] at within
      exact ⟨by simp only [Channel.used]; omega,
        fun someone => absurd nobody someone⟩
  | handed isOpen queued waiting =>
      have full := busy (by rw [waiting]; exact List.cons_ne_nil _ _)
      rw [queued, List.length_cons] at full
      have same : ∀ {rest : List Message} {granted : List Sender}
          {first : Sender}, rest.length + 1 + granted.length = capacity →
          rest.length + (granted ++ [first]).length = capacity := by
        intro rest granted first whole
        rw [List.length_append, List.length_singleton]
        omega
      exact ⟨Nat.le_of_eq (same full), fun _ => same full⟩
  | refused sender closed waits =>
      exact ⟨within, fun _ => busy (List.ne_nil_of_mem waits)⟩
  | closes => exact ⟨within, busy⟩
  | idles => exact ⟨within, busy⟩

end Sound

/-! ## Who stands in the channel -/

/-- How often a sender holds a place or waits for one. -/
def Channel.claims [DecidableEq Sender] (channel : Channel Sender Message)
    (sender : Sender) : Nat :=
  (channel.granted ++ channel.waiting).count sender

/-- The operation lets the sender in. -/
@[simp]
def ChannelEvent.enters [DecidableEq Sender] (sender : Sender) :
    ChannelEvent Sender Message → Nat
  | .claim other => if other = sender then 1 else 0
  | _ => 0

/-- The operation lets the sender out. -/
@[simp]
def ChannelEvent.leaves [DecidableEq Sender] (sender : Sender) :
    ChannelEvent Sender Message → Nat
  | .push other _ => if other = sender then 1 else 0
  | .refuse other => if other = sender then 1 else 0
  | _ => 0

section Claims

variable [DecidableEq Sender] {capacity : Nat}
  {channel next : Channel Sender Message}
  {event : ChannelEvent Sender Message}

private theorem count_erase_add {senders : List Sender} {other : Sender}
    (member : other ∈ senders) (sender : Sender) :
    (senders.erase other).count sender + (if other = sender then 1 else 0) =
      senders.count sender := by
  by_cases same : other = sender
  · subst same
    have positive := List.count_pos_iff.mpr member
    rw [if_pos rfl, List.count_erase_self]
    omega
  · rw [if_neg same, List.count_erase_of_ne (Ne.symm same)]
    exact Nat.add_zero _

theorem ChannelStep.claims
    (step : ChannelStep capacity channel event next) (sender : Sender) :
    next.claims sender + event.leaves sender =
      channel.claims sender + event.enters sender := by
  simp only [Channel.claims, List.count_append]
  cases step with
  | granted other isOpen free =>
      simp only [ChannelEvent.leaves, ChannelEvent.enters, List.count_append,
        List.count_singleton, beq_iff_eq]
      omega
  | waits other isOpen full =>
      simp only [ChannelEvent.leaves, ChannelEvent.enters, List.count_append,
        List.count_singleton, beq_iff_eq]
      omega
  | pushed other message holds =>
      have erased := count_erase_add holds sender
      simp only [ChannelEvent.leaves, ChannelEvent.enters]
      omega
  | popped isOpen queued nobody => rfl
  | handed isOpen queued waiting =>
      simp only [ChannelEvent.leaves, ChannelEvent.enters, waiting,
        List.count_append, List.count_cons, List.count_nil]
      omega
  | refused other closed waits =>
      have erased := count_erase_add waits sender
      simp only [ChannelEvent.leaves, ChannelEvent.enters]
      omega
  | closes => rfl
  | idles => rfl

end Claims

/-! ## Nobody waits for ever -/

/-- The sender waits, and as many wait before it. -/
def WaitsAt (sender : Sender) (place : Nat)
    (channel : Channel Sender Message) : Prop :=
  channel.closed = false ∧ ∃ front back,
    channel.waiting = front ++ sender :: back ∧ front.length = place

/-- The sender may push, or learns that nobody receives. -/
def Served (sender : Sender) (channel : Channel Sender Message) : Prop :=
  sender ∈ channel.granted ∨ channel.closed = true

/-- The sender came further: a place in the line, or the end of it. -/
def Advanced (sender : Sender) (place : Nat)
    (channel : Channel Sender Message) : Prop :=
  (∃ smaller, smaller < place ∧ WaitsAt sender smaller channel) ∨
    Served sender channel

section Line

variable [DecidableEq Sender] {capacity : Nat}
  {channel next : Channel Sender Message}
  {event : ChannelEvent Sender Message} {sender : Sender} {place : Nat}

/-- The line moves with each message that is received, and not otherwise. -/
theorem WaitsAt.step (waits : WaitsAt sender place channel)
    (step : ChannelStep capacity channel event next) :
    (WaitsAt sender place next ∧ event ≠ .pop) ∨
      Advanced sender place next := by
  rcases waits with ⟨isOpen, front, back, line, length⟩
  cases step with
  | granted newcomer isOpen' free =>
      exact Or.inl ⟨⟨isOpen, front, back, line, length⟩, by simp⟩
  | waits newcomer isOpen' full =>
      refine Or.inl ⟨⟨isOpen, front, back ++ [newcomer], ?_, length⟩, by simp⟩
      show channel.waiting ++ [newcomer] = _
      rw [line, List.append_assoc]
      rfl
  | pushed pusher message holds =>
      exact Or.inl ⟨⟨isOpen, front, back, line, length⟩, by simp⟩
  | popped isOpen' queued nobody =>
      rw [nobody] at line
      simp at line
  | handed isOpen' queued waiting =>
      rw [waiting] at line
      cases front with
      | nil =>
          cases line
          exact Or.inr (Or.inr (Or.inl (List.mem_append_right _
            (List.mem_singleton.mpr rfl))))
      | cons first rest =>
          cases line
          refine Or.inr (Or.inl ⟨rest.length, ?_, rfl, rest, back, rfl, rfl⟩)
          rw [← length]
          exact Nat.lt_succ_self _
  | refused other closed waits =>
      rw [isOpen] at closed
      cases closed
  | closes => exact Or.inr (Or.inr (Or.inr rfl))
  | idles => exact Or.inl ⟨⟨isOpen, front, back, line, length⟩, by simp⟩

/-- A granted place is kept until it is used. -/
theorem granted_step (holds : sender ∈ channel.granted)
    (step : ChannelStep capacity channel event next) :
    sender ∈ next.granted ∨ ∃ message, event = .push sender message := by
  cases step with
  | granted | handed => exact Or.inl (List.mem_append_left _ holds)
  | pushed pusher message holds' =>
      by_cases same : pusher = sender
      · exact Or.inr ⟨message, by rw [same]⟩
      · exact Or.inl ((List.mem_erase_of_ne (Ne.symm same)).mpr holds)
  | waits | popped | refused | closes | idles => exact Or.inl holds

theorem queue_ne_nil_of_push {pusher : Sender} {message : Message}
    (step : ChannelStep capacity channel (.push pusher message) next) :
    next.queue ≠ [] := by
  cases step
  exact List.append_ne_nil_of_right_ne_nil _ (List.cons_ne_nil _ _)

theorem queue_ne_nil_step (queued : channel.queue ≠ [])
    (step : ChannelStep capacity channel event next) (kept : event ≠ .pop) :
    next.queue ≠ [] := by
  cases step with
  | popped | handed => exact absurd rfl kept
  | pushed => exact List.append_ne_nil_of_left_ne_nil queued _
  | granted | waits | refused | closes | idles => exact queued

end Line

section Behaviors

variable [DecidableEq Sender] {capacity : Nat}
  {behavior : Behavior
    (stepChannel capacity : Step (Channel Sender Message) _ _)}
  {sender : Sender} {place : Nat}

theorem sound_always (sound : Sound capacity (behavior.state 0))
    (moment : Nat) : Sound capacity (behavior.state moment) := by
  induction moment with
  | zero => exact sound
  | succ moment induction =>
      exact induction.step (stepChannel_step (behavior.taken moment))

/-- The receiver goes on as long as there is something to receive. -/
def Receives (behavior : Behavior
    (stepChannel capacity : Step (Channel Sender Message) _ _)) : Prop :=
  WeaklyFair behavior
    (fun channel => channel.closed = false ∧ channel.queue ≠ []) (· = .pop)

/-- Whoever was granted a place uses it. -/
def Pushes (behavior : Behavior
    (stepChannel capacity : Step (Channel Sender Message) _ _)) : Prop :=
  ∀ sender, WeaklyFair behavior (fun channel => sender ∈ channel.granted)
    fun event => ∃ message, event = .push sender message

/-- A message before everybody in the line moves it. -/
theorem advances_of_queued (receives : Receives behavior) :
    LeadsTo behavior
      (fun channel => WaitsAt sender place channel ∧ channel.queue ≠ [])
      (Advanced sender place) := by
  refine leadsTo_of_weaklyFair
    (receives.weaken fun channel here => ⟨here.1.1, here.2⟩) ?_
  rintro moment ⟨waits, queued⟩
  have step := stepChannel_step (behavior.taken moment)
  rcases waits.step step with ⟨still, other⟩ | advanced
  · exact Or.inl ⟨⟨still, queue_ne_nil_step queued step other⟩, other⟩
  · exact Or.inr advanced

/-- The places are taken by those who will push. -/
theorem queued_of_granted (pushes : Pushes behavior) (holder : Sender) :
    LeadsTo behavior
      (fun channel => WaitsAt sender place channel ∧
        holder ∈ channel.granted)
      (fun channel =>
        (WaitsAt sender place channel ∧ channel.queue ≠ []) ∨
          Advanced sender place channel) := by
  refine leadsTo_of_weaklyFair
    ((pushes holder).weaken fun channel here => here.2) ?_
  rintro moment ⟨waits, holds⟩
  have step := stepChannel_step (behavior.taken moment)
  rcases waits.step step with ⟨still, -⟩ | advanced
  · rcases granted_step holds step with stays | ⟨message, pushed⟩
    · by_cases taken : ∃ message, behavior.event moment = .push holder message
      · rcases taken with ⟨message, pushed⟩
        rw [pushed] at step
        exact Or.inr (Or.inl ⟨still, queue_ne_nil_of_push step⟩)
      · exact Or.inl ⟨⟨still, stays⟩, taken⟩
    · rw [pushed] at step
      exact Or.inr (Or.inl ⟨still, queue_ne_nil_of_push step⟩)
  · exact Or.inr (Or.inr advanced)

theorem waitsAt_advances (positive : 0 < capacity)
    (sound : Sound capacity (behavior.state 0))
    (receives : Receives behavior) (pushes : Pushes behavior) :
    LeadsTo behavior (WaitsAt sender place) (Advanced sender place) := by
  intro moment waits
  have ofQueued : ∀ moment,
      WaitsAt sender place (behavior.state moment) →
        (behavior.state moment).queue ≠ [] →
          ∃ later, moment ≤ later ∧
            Advanced sender place (behavior.state later) :=
    fun moment waits queued =>
      advances_of_queued receives moment ⟨waits, queued⟩
  by_cases queued : (behavior.state moment).queue = []
  · -- all the places are those of senders about to push
    have full := (sound_always sound moment).busy (by
      rcases waits with ⟨-, front, back, line, -⟩
      rw [line]
      exact List.append_ne_nil_of_right_ne_nil _ (List.cons_ne_nil _ _))
    rw [Channel.used, queued, List.length_nil, Nat.zero_add] at full
    rcases List.exists_mem_of_length_pos (full.symm ▸ positive) with
      ⟨holder, holds⟩
    rcases queued_of_granted pushes holder moment ⟨waits, holds⟩ with
      ⟨middle, since, ⟨still, some⟩ | advanced⟩
    · rcases ofQueued middle still some with ⟨later, after, advanced⟩
      exact ⟨later, Nat.le_trans since after, advanced⟩
    · exact ⟨middle, since, advanced⟩
  · exact ofQueued moment waits queued

/-- Whoever waits is served in the end. -/
theorem waiting_leadsTo_served (positive : 0 < capacity)
    (sound : Sound capacity (behavior.state 0))
    (receives : Receives behavior) (pushes : Pushes behavior) :
    LeadsTo behavior (fun channel => sender ∈ channel.waiting)
      (Served sender) := by
  intro moment waits
  by_cases isOpen : (behavior.state moment).closed = true
  · exact ⟨moment, Nat.le_refl _, Or.inr isOpen⟩
  · rcases List.append_of_mem waits with ⟨front, back, line⟩
    have ranked : LeadsTo behavior
        (fun channel => ∃ place, WaitsAt sender place channel)
        (Served sender) :=
      LeadsTo.ofRank fun place =>
        waitsAt_advances positive sound receives pushes
    exact ranked moment ⟨front.length,
      (Bool.not_eq_true _).mp isOpen, front, back, line, rfl⟩

end Behaviors

end NuxAuth.Lib.BoundedChannel
