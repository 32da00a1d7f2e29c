import NuxAuth.Core.TunnelTransparency

/-!
# A tunnel that ends in order

When both copies return their counts and no connection was lost, each program
received all that the other one wrote, and the four counts are the lengths of
what was exchanged.  A copy that returns an error says nothing of the kind: the
end of the stream it leaves behind looks to the other side like any other.
-/

namespace NuxAuth.Core

open NuxAuth.Lib.RecordedRun NuxAuth.Lib.WireStream
open TunnelLink

variable {PeerId : Type} [DecidableEq PeerId]

/-! ## What the counters count -/

/-- The counters of both copies, against what is written and received. -/
structure Tallied (link : TunnelLink) : Prop where
  framed : link.headerRead.length ≤ link.preamble.length
  unread : link.client.Early →
    link.up.waiting = link.localProgram.written ∧ link.sent = 0
  flushed : link.client = .awaitingAck → link.up.held = []
  relaying : link.client = .relaying →
    link.sent + (link.up.held.length + link.up.waiting.length) =
      link.localProgram.written.length
  relayed : ∀ sent received, link.client = .relayed (some (sent, received)) →
    sent = link.localProgram.written.length ∧
      received = link.localProgram.received.length ∧
        link.up.ended = true ∧ link.clientUp = .finished ∧
          link.clientDown = .finished
  serving : ∀ stage, link.guard = .serving stage →
    link.toPeer + (link.down.held.length + link.down.waiting.length) =
      link.service.written.length
  returned : ∀ outcome, link.guard = .returned outcome →
    link.guardUp = .finished → link.guardDown = .finished →
      outcome = .served (UInt64.ofNat link.service.received.length)
        (UInt64.ofNat link.service.written.length)

section Counting

variable {registry : TunnelRegistry PeerId} {peer : PeerId}
    {roles : List String} {service : String} {link next : TunnelLink}
    {event : LinkEvent} {actions : List ServeAction}

theorem tallied_start : Tallied {} where
  framed := le_refl 0
  unread := fun _ => ⟨rfl, rfl⟩
  flushed := fun _ => rfl
  relaying := by rintro ⟨⟩
  relayed := by rintro sent received ⟨⟩
  serving := fun _ _ => rfl
  returned := by rintro outcome ⟨⟩

/-- A Client that ends otherwise than in order has nothing left to count. -/
theorem Tallied.clientEnds (inv : Tallied link) {stage : ClientStage}
    (late : ¬ stage.Early) (other : stage ≠ .relaying)
    (relayed : ∀ sent received, stage = .relayed (some (sent, received)) →
      sent = link.localProgram.written.length ∧
        received = link.localProgram.received.length ∧
          link.up.ended = true ∧ link.clientUp = .finished ∧
            link.clientDown = .finished) :
    Tallied (link.clientEnds stage) :=
  { inv with
    unread := fun early => absurd early late
    flushed := by
      rintro awaiting
      have same : stage = .awaitingAck := awaiting
      rw [same] at late
      exact absurd trivial late
    relaying := fun same => absurd same other
    relayed := by
      intro sent received same
      rcases relayed sent received same with ⟨all, heard, ended, phases⟩
      exact ⟨all, heard, by simpa [TunnelLink.clientEnds] using ended,
        phases⟩ }

/-- A serve task that ends with a copy unfinished has nothing to report. -/
theorem Tallied.guardEnds (inv : Tallied link) {outcome : TunnelOutcome}
    (reported : link.guardUp = .finished → link.guardDown = .finished →
      outcome = .served (UInt64.ofNat link.service.received.length)
        (UInt64.ofNat link.service.written.length)) :
    Tallied (link.guardEnds outcome) :=
  { inv with
    serving := by rintro stage ⟨⟩
    returned := by
      rintro other ⟨⟩
      exact reported }

/-- A task that is still to acknowledge has finished no copy. -/
theorem Carried.unfinished
    (carried : Carried registry peer roles service link) {stage : ServeStage}
    (serving : link.guard = .serving stage) (early : stage.Early)
    (finished : link.guardUp = .finished) : False := by
  have fresh := (carried.hops.guardFresh stage serving early).1
  rw [finished] at fresh
  cases fresh

theorem Tallied.step (carried : Carried registry peer roles service link)
    (inv : Tallied link)
    (move : LinkMove registry peer roles service link event next actions) :
    Tallied next := by
  cases move with
  | headerStarted opening opened named sent =>
      have early := inv.unread (by rw [opening]; trivial)
      have silent := (carried.up.undeclared (carried.up.opening opening)).2.2.2.1
      exact { inv with
        framed := by simp [silent]
        unread := fun _ => early
        flushed := by rintro ⟨⟩
        relaying := by rintro ⟨⟩
        relayed := by rintro sent received ⟨⟩ }
  | @headerSent count stage writing opened enough after =>
      have early := inv.unread (by rw [writing]; trivial)
      have quiet : stage ≠ .relaying ∧ ∀ counts, stage ≠ .relayed counts := by
        rcases after with rfl | ⟨rfl, -⟩
        · simp
        · simp
      exact { inv with
        unread := fun _ => early
        flushed := by
          intro awaiting
          have same : stage = .awaitingAck := awaiting
          rcases after with rfl | ⟨-, all⟩
          · cases same
          · simp only [Conveyor.send, all, List.drop_length]
        relaying := fun same => absurd same quiet.1
        relayed := fun _ _ same => absurd same (quiet.2 _) }
  | ackHeard awaiting arrived =>
      have early := inv.unread (by rw [awaiting]; trivial)
      have flushed := inv.flushed awaiting
      exact { inv with
        unread := by rintro ⟨⟩
        flushed := by rintro ⟨⟩
        relaying := by
          intro _
          simp only [early.1, early.2, flushed, List.length_nil]
          omega
        relayed := by rintro sent received ⟨⟩ }
  | clientRefused early why =>
      exact inv.clientEnds id (by simp) (by rintro sent received ⟨⟩)
  | clientCopiedUp relaying copied =>
      have left := sendHop_left copied
      have before := inv.relaying relaying
      exact { inv with
        unread := by
          simp only [relaying]
          rintro ⟨⟩
        flushed := by
          simp only [relaying]
          rintro ⟨⟩
        relaying := by
          intro _
          simp only
          omega
        relayed := by
          simp only [relaying]
          rintro sent received ⟨⟩ }
  | clientCopiedDown relaying copied =>
      rcases receiveHop_frame copied with ⟨held, waiting, -⟩
      exact { inv with
        serving := by
          intro stage serving
          simp only [held, waiting]
          exact inv.serving stage serving
        relayed := by
          simp only [relaying]
          rintro sent received ⟨⟩ }
  | clientClosed relaying up down =>
      refine inv.clientEnds id (by simp) ?_
      rintro sent received ⟨⟩
      have all := inv.relaying relaying
      have held := (carried.hops.clientUp.finished up).1
      rcases carried.hops.clientUp.ended (by rw [up]; simp) with
        ⟨waiting, ended⟩
      rw [held, waiting] at all
      exact ⟨all, rfl, ended, up, down⟩
  | clientFailed relaying =>
      exact inv.clientEnds id (by simp) (by rintro sent received ⟨⟩)
  | headerIncomplete reading enough asked incomplete =>
      rcases carried.up.read reading asked with ⟨-, same, within, -⟩
      exact { inv with
        framed := same ▸ within
        serving := fun _ _ => inv.serving _ reading
        returned := by rintro outcome ⟨⟩ }
  | headerAdmitted reading enough asked complete admitted =>
      rcases carried.up.read reading asked with ⟨-, same, within, -⟩
      exact { inv with
        framed := same ▸ within
        serving := fun _ _ => inv.serving _ reading
        returned := by rintro outcome ⟨⟩ }
  | headerDenied reading enough asked =>
      rcases carried.up.read reading asked with ⟨-, same, within, -⟩
      have ended : Tallied (link.guardEnds .denied) :=
        inv.guardEnds fun finished _ =>
          (carried.unfinished reading trivial finished).elim
      exact { ended with framed := same ▸ within }
  | guardDenied serving early =>
      exact inv.guardEnds fun finished _ =>
        (carried.unfinished serving early finished).elim
  | connected connecting =>
      exact { inv with
        serving := fun _ _ => inv.serving _ connecting
        returned := by rintro outcome ⟨⟩ }
  | acknowledged connected opened =>
      exact { inv with
        serving := fun _ _ => inv.serving _ connected
        returned := by rintro outcome ⟨⟩ }
  | ackLost connected opened =>
      exact { inv with
        serving := by rintro stage ⟨⟩
        returned := by
          intro outcome _ finished _
          exact (carried.unfinished connected trivial finished).elim }
  | guardCopiedUp relaying copied =>
      rcases receiveHop_frame copied with ⟨held, waiting, ended, -⟩
      exact { inv with
        unread := by
          intro early
          simp only [waiting]
          exact inv.unread early
        flushed := fun awaiting => held.trans (inv.flushed awaiting)
        relaying := by
          intro copying
          simp only [held, waiting]
          exact inv.relaying copying
        relayed := by
          intro sent received same
          rcases inv.relayed sent received same with ⟨all, heard, stopped, phases⟩
          exact ⟨all, heard, ended.trans stopped, phases⟩
        returned := by
          intro outcome returned
          simp only [relaying] at returned
          cases returned }
  | guardCopiedDown relaying copied =>
      have left := sendHop_left copied
      have before := inv.serving _ relaying
      exact { inv with
        serving := by
          intro stage serving
          simp only
          omega
        returned := by
          intro outcome returned
          simp only [relaying] at returned
          cases returned }
  | guardClosed relaying up down =>
      apply inv.guardEnds
      intro _ _
      have all := inv.serving _ relaying
      have held := (carried.hops.guardDown.finished down).1
      have waiting := (carried.hops.guardDown.ended (by rw [down]; simp)).1
      rw [held, waiting] at all
      rw [← all]
      rfl
  | guardFailed relaying unfinished =>
      exact inv.guardEnds fun up down => absurd ⟨up, down⟩ unfinished
  | localWrote writing =>
      exact { inv with
        unread := by
          intro early
          rcases inv.unread early with ⟨waiting, sent⟩
          simp only [Conveyor.produce, waiting, sent, and_self]
        relaying := by
          intro copying
          have before := inv.relaying copying
          simp only [Conveyor.produce, List.length_append]
          omega
        relayed := by
          intro sent received same
          have ended := (inv.relayed sent received same).2.2.1
          rw [writing] at ended
          cases ended }
  | localEnded =>
      exact { inv with
        relayed := by
          intro sent received same
          rcases inv.relayed sent received same with ⟨all, heard, -, phases⟩
          exact ⟨all, heard, rfl, phases⟩ }
  | serviceWrote connected writing =>
      exact { inv with
        serving := by
          intro stage serving
          have before := inv.serving stage serving
          simp only [Conveyor.produce, List.length_append]
          omega
        returned := by
          intro outcome returned
          simp only [TunnelLink.Connected] at connected
          have same : link.guard = .returned outcome := returned
          rw [same] at connected
          cases connected }
  | serviceEnded => exact { inv with }
  | lost =>
      exact { inv with
        unread := by
          intro early
          simpa using inv.unread early
        flushed := by
          intro awaiting
          simpa using inv.flushed awaiting
        relaying := by
          intro copying
          simpa using inv.relaying copying
        relayed := by
          intro sent received same
          simpa using inv.relayed sent received same
        serving := by
          intro stage serving
          simpa using inv.serving stage serving }

end Counting

/-! ## Nothing is lost in order -/

/-- `relay_local` ended otherwise than by a copy that returned its counts. -/
def ClientStage.Gone : ClientStage → Prop
  | .refused _ => True
  | .relayed none => True
  | _ => False

/-- The connection breaks at some step of the run. -/
def ConnectionLost (trace : List LinkTransition) : Prop :=
  ∃ transition ∈ trace, ∃ up down,
    transition.event = .connectionLost up down

/-- The serve task has returned, and both of its copies were shut down. -/
structure ClosedInOrder (link : TunnelLink) : Prop where
  returned : ∃ outcome, link.guard = .returned outcome
  up : link.guardUp = .finished
  down : link.guardDown = .finished

/-- What a line may have lost, it lost with its sender or its connection. -/
structure LosesOnlyWithSender (trace : List LinkTransition)
    (link : TunnelLink) : Prop where
  up : link.up.lossy = true → link.client.Gone ∨ ConnectionLost trace
  down : link.down.lossy = true →
    (∃ outcome, link.guard = .returned outcome) ∧ ¬ ClosedInOrder link ∨
      ConnectionLost trace

section Losses

variable {registry : TunnelRegistry PeerId} {peer : PeerId}
    {roles : List String} {service : String} {link next : TunnelLink}
    {event : LinkEvent} {actions : List ServeAction}
    {trace : List LinkTransition}

theorem losesOnlyWithSender_start : LosesOnlyWithSender [] {} where
  up := by rintro ⟨⟩
  down := by rintro ⟨⟩

theorem ConnectionLost.later (lost : ConnectionLost trace)
    (last : LinkTransition) : ConnectionLost (trace ++ [last]) := by
  rcases lost with ⟨transition, member, same⟩
  exact ⟨transition, List.mem_append_left _ member, same⟩

/-- A step that leaves the serve task where it is. -/
theorem LosesOnlyWithSender.keepsGuard
    (inv : LosesOnlyWithSender trace link)
    (up : next.up.lossy = true → next.client.Gone ∨
      link.up.lossy = true ∧ (link.client.Gone → next.client.Gone))
    (guard : next.guard = link.guard) (guardUp : next.guardUp = link.guardUp)
    (guardDown : next.guardDown = link.guardDown)
    (down : next.down.lossy = link.down.lossy) :
    LosesOnlyWithSender (trace ++ [⟨link, event, actions, next⟩]) next := by
  refine ⟨?_, ?_⟩
  · intro lossy
    rcases up lossy with gone | ⟨before, stays⟩
    · exact Or.inl gone
    · rcases inv.up before with gone | lost
      · exact Or.inl (stays gone)
      · exact Or.inr (lost.later _)
  · intro lossy
    rw [down] at lossy
    rcases inv.down lossy with ⟨returned, unclosed⟩ | lost
    · refine Or.inl ⟨guard ▸ returned, ?_⟩
      rintro ⟨-, upClosed, downClosed⟩
      exact unclosed ⟨returned, guardUp ▸ upClosed, guardDown ▸ downClosed⟩
    · exact Or.inr (lost.later _)

/-- A step of the serve task. -/
theorem LosesOnlyWithSender.guardMoves
    (inv : LosesOnlyWithSender trace link) {stage : ServeStage}
    (serving : link.guard = .serving stage)
    (client : next.client = link.client)
    (up : next.up.lossy = link.up.lossy)
    (down : next.down.lossy = link.down.lossy ∨
      (∃ outcome, next.guard = .returned outcome) ∧ ¬ ClosedInOrder next) :
    LosesOnlyWithSender (trace ++ [⟨link, event, actions, next⟩]) next := by
  refine ⟨?_, ?_⟩
  · intro lossy
    rw [client]
    rcases inv.up (up ▸ lossy) with gone | lost
    · exact Or.inl gone
    · exact Or.inr (lost.later _)
  · intro lossy
    rcases down with same | gone
    · rcases inv.down (same ▸ lossy) with ⟨⟨outcome, returned⟩, -⟩ | lost
      · rw [serving] at returned
        cases returned
      · exact Or.inr (lost.later _)
    · exact Or.inl gone

theorem LosesOnlyWithSender.step
    (carried : Carried registry peer roles service link)
    (inv : LosesOnlyWithSender trace link)
    (move : LinkMove registry peer roles service link event next actions) :
    LosesOnlyWithSender (trace ++ [⟨link, event, actions, next⟩]) next := by
  have endsEarly : ∀ {stage : ServeStage} {moved : TunnelLink},
      link.guard = .serving stage → stage.Early →
        moved.guardUp = link.guardUp → ¬ ClosedInOrder moved := by
    intro stage moved serving early same closed
    exact carried.unfinished serving early (same ▸ closed.up)
  cases move with
  | headerStarted opening opened named sent =>
      refine inv.keepsGuard (fun lossy => Or.inr ⟨lossy, ?_⟩) rfl rfl rfl rfl
      simp [opening, ClientStage.Gone]
  | headerSent writing opened enough after =>
      refine inv.keepsGuard (fun lossy => Or.inr ⟨lossy, ?_⟩) rfl rfl rfl rfl
      simp [writing, ClientStage.Gone]
  | ackHeard awaiting arrived =>
      refine inv.keepsGuard (fun lossy => Or.inr ⟨lossy, ?_⟩) rfl rfl rfl rfl
      simp [awaiting, ClientStage.Gone]
  | clientRefused early why =>
      exact inv.keepsGuard (fun _ => Or.inl trivial) rfl rfl rfl rfl
  | clientCopiedUp relaying copied =>
      have same := (sendHop_frame copied).2.2.1
      exact inv.keepsGuard (fun lossy => Or.inr ⟨same ▸ lossy, id⟩)
        rfl rfl rfl rfl
  | clientCopiedDown relaying copied =>
      have same := (receiveHop_frame copied).2.2.2.2.1
      exact inv.keepsGuard (fun lossy => Or.inr ⟨lossy, id⟩) rfl rfl rfl same
  | clientClosed relaying up down =>
      -- The line was shut down before: the task has nothing left to drop.
      have shut := Conveyor.abandon_of_closed
        (carried.hops.clientUp.finished up).2
      refine inv.keepsGuard ?_ rfl rfl rfl rfl
      intro lossy
      simp only [TunnelLink.clientEnds, shut] at lossy
      refine Or.inr ⟨lossy, ?_⟩
      simp [relaying, ClientStage.Gone]
  | clientFailed relaying =>
      exact inv.keepsGuard (fun _ => Or.inl trivial) rfl rfl rfl rfl
  | headerIncomplete reading enough asked incomplete =>
      exact inv.guardMoves reading rfl rfl (Or.inl rfl)
  | headerAdmitted reading enough asked complete admitted =>
      exact inv.guardMoves reading rfl rfl (Or.inl rfl)
  | headerDenied reading enough asked =>
      exact inv.guardMoves reading rfl rfl
        (Or.inr ⟨⟨_, rfl⟩, endsEarly reading trivial rfl⟩)
  | guardDenied serving early =>
      exact inv.guardMoves serving rfl rfl
        (Or.inr ⟨⟨_, rfl⟩, endsEarly serving early rfl⟩)
  | connected connecting =>
      exact inv.guardMoves connecting rfl rfl (Or.inl rfl)
  | acknowledged connected opened =>
      exact inv.guardMoves connected rfl rfl (Or.inl rfl)
  | ackLost connected opened =>
      exact inv.guardMoves connected rfl rfl
        (Or.inr ⟨⟨_, rfl⟩, endsEarly connected trivial rfl⟩)
  | guardCopiedUp relaying copied =>
      have same := (receiveHop_frame copied).2.2.2.2.1
      exact inv.guardMoves relaying rfl same (Or.inl rfl)
  | guardCopiedDown relaying copied =>
      have same := (sendHop_frame copied).2.2.1
      exact inv.guardMoves relaying rfl rfl (Or.inl same)
  | guardClosed relaying up down =>
      have shut := Conveyor.abandon_of_closed
        (carried.hops.guardDown.finished down).2
      refine inv.guardMoves relaying rfl rfl (Or.inl ?_)
      simp only [TunnelLink.guardEnds, shut]
  | guardFailed relaying unfinished =>
      refine inv.guardMoves relaying rfl rfl (Or.inr ⟨⟨_, rfl⟩, ?_⟩)
      rintro ⟨-, up, down⟩
      exact unfinished ⟨up, down⟩
  | @lost up down =>
      have now : ConnectionLost (trace ++ [⟨link, .connectionLost up down, [],
          { link with up := link.up.lose up, down := link.down.lose down }⟩]) :=
        ⟨_, List.mem_append_right _ (List.mem_singleton_self _), up, down, rfl⟩
      exact ⟨fun _ => Or.inr now, fun _ => Or.inr now⟩
  | _ =>
      exact inv.keepsGuard (fun lossy => Or.inr ⟨lossy, id⟩) rfl rfl rfl rfl

end Losses

/-! ## The result -/

section Complete

variable {registry : TunnelRegistry PeerId} {peer : PeerId}
    {roles : List String} {service : String} {link : TunnelLink}
    {trace : List LinkTransition}

theorem tallied_of_run
    (run : Run (stepLink registry peer roles service) {} trace link) :
    Tallied link :=
  run.history tallied_start
    fun _ _ _ _ _ prior (inv : Tallied _) taken =>
      Tallied.step (carried_of_run prior) inv (stepLink_move taken)

theorem losesOnlyWithSender_of_run
    (run : Run (stepLink registry peer roles service) {} trace link) :
    LosesOnlyWithSender trace link :=
  run.history losesOnlyWithSender_start fun _ _ _ _ _ prior inv taken =>
    LosesOnlyWithSender.step (carried_of_run prior) inv (stepLink_move taken)

/-- A Guard that closed in order has handed over all there was. -/
theorem service_received_all
    (run : Run (stepLink registry peer roles service) {} trace link)
    (kept : ¬ ConnectionLost trace) (stays : ¬ link.client.Gone)
    (closed : ClosedInOrder link) :
    link.service.received = link.localProgram.written := by
  rcases carried_of_run run with ⟨up, -, hops⟩
  have exact : link.up.lossy = false := by
    by_contra lossy
    rcases (losesOnlyWithSender_of_run run).up (by simpa using lossy) with
      gone | lost
    · exact stays gone
    · exact kept lost
  rcases hops.guardUp.ended (by rw [closed.up]; decide) with ⟨wire, shut⟩
  have whole := up.carries.complete exact shut wire
    (hops.guardUp.finished closed.up)
  rcases up.quiet with silent | read
  · have within := (tallied_of_run run).framed
    rw [silent, List.append_nil] at whole
    rw [whole, List.length_append] at within
    have nothing : link.localProgram.written = [] :=
      List.length_eq_zero_iff.mp (by omega)
    rw [silent, nothing]
  · rw [read] at whole
    exact List.append_cancel_left whole

/-- A Client whose copy returned its counts, likewise. -/
theorem local_received_all
    (run : Run (stepLink registry peer roles service) {} trace link)
    (kept : ¬ ConnectionLost trace) {counts : Nat × Nat}
    (relayed : link.client = .relayed (some counts))
    (closed : ClosedInOrder link) :
    link.localProgram.received = link.service.written := by
  rcases carried_of_run run with ⟨-, down, hops⟩
  have exact : link.down.lossy = false := by
    by_contra lossy
    rcases (losesOnlyWithSender_of_run run).down (by simpa using lossy) with
      ⟨-, unclosed⟩ | lost
    · exact unclosed closed
    · exact kept lost
  have phase := ((tallied_of_run run).relayed _ _ relayed).2.2.2.2
  rcases hops.clientDown.ended (by rw [phase]; decide) with ⟨wire, shut⟩
  have whole := down.carries.complete exact shut wire
    (hops.clientDown.finished phase)
  have heard : link.client.heard = [tunnelAck] := by
    rw [relayed]
    rfl
  have acked : link.acked = true := by
    by_contra unacked
    have unheard := (down.unacked (by simpa using unacked)).1
    rw [heard] at unheard
    cases unheard
  rw [heard, announced, if_pos acked] at whole
  exact List.append_cancel_left whole

/--
When the copies at both ends returned in order and no connection was lost,
each program received exactly what the other one wrote, and each task reports
the lengths of both: whole for the Client, as 64 bits for the Guard.
-/
theorem tunnel_complete
    (run : Run (stepLink registry peer roles service) {} trace link)
    (kept : ¬ ConnectionLost trace) {sent received : Nat}
    (relayed : link.client = .relayed (some (sent, received)))
    (closed : ClosedInOrder link) :
    link.service.received = link.localProgram.written ∧
      link.localProgram.received = link.service.written ∧
      sent = link.localProgram.written.length ∧
      received = link.service.written.length ∧
      link.guard = .returned (.served (UInt64.ofNat sent)
        (UInt64.ofNat received)) := by
  have tallied := tallied_of_run run
  have stays : ¬ link.client.Gone := by
    rw [relayed]
    exact id
  have up := service_received_all run kept stays closed
  have down := local_received_all run kept relayed closed
  rcases tallied.relayed sent received relayed with ⟨all, heard, -⟩
  rw [down] at heard
  rcases closed.returned with ⟨outcome, returned⟩
  have reported := tallied.returned outcome returned closed.up closed.down
  refine ⟨up, down, all, heard, ?_⟩
  rw [returned, reported, up, all, heard]

end Complete

section SmallClosing

open SmallGuard SmallLink

/-- The serve task is over. -/
def ServePhase.hasReturned : ServePhase → Bool
  | .returned _ => true
  | .serving _ => false

/-- The connection breaks. -/
def LinkEvent.isLoss : LinkEvent → Bool
  | .connectionLost _ _ => true
  | _ => false

/-- Both copies returned, and no connection was lost on the way. -/
def closedInOrder (trace : List LinkTransition) (link : TunnelLink) : Bool :=
  link.client = .relayed (some (3, 2)) && link.guard.hasReturned &&
    link.guardUp = .finished && link.guardDown = .finished &&
      trace.all fun transition => !transition.event.isLoss

theorem tunnel_complete_small :
    ∃ (trace : List LinkTransition) (link : TunnelLink),
      Run SmallLink.step {} trace link ∧
      link.client = .relayed (some (3, 2)) ∧
      link.service.received = link.localProgram.written ∧
      link.localProgram.received = link.service.written ∧
      3 = link.localProgram.written.length ∧
      2 = link.service.written.length ∧
      link.guard = .returned (.served (UInt64.ofNat 3) (UInt64.ofNat 2)) := by
  have computed :
      (execute SmallLink.step {} (admission ++ exchanges ++ closes)).any
        (fun result => closedInOrder result.1 result.2) = true := by
    decide +kernel
  rcases exists_run_of_any computed with ⟨trace, link, run, -, observed⟩
  simp only [closedInOrder, Bool.and_eq_true, decide_eq_true_eq,
    List.all_eq_true] at observed
  rcases observed with ⟨⟨⟨⟨relayed, served⟩, up⟩, down⟩, quiet⟩
  have kept : ¬ ConnectionLost trace := by
    rintro ⟨transition, member, upLoss, downLoss, same⟩
    have silent := quiet transition member
    rw [same] at silent
    cases silent
  have returned : ∃ outcome, link.guard = .returned outcome := by
    cases guard : link.guard with
    | serving stage =>
        rw [guard] at served
        cases served
    | returned outcome => exact ⟨outcome, rfl⟩
  exact ⟨trace, link, run, relayed,
    tunnel_complete run kept relayed ⟨returned, up, down⟩⟩

end SmallClosing

end NuxAuth.Core
