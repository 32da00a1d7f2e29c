import Mathlib.Data.List.Basic

/-!
# Items carried one way

What a producer writes waits until the sender reads it, is held by the sender,
travels on a wire and is taken by the receiver, who hands it to a consumer.
Every stretch keeps the order, so one list says what is still to come, and what
was delivered together with it is what was produced.

The wire is closed by a sender that has sent everything, by a sender that is
gone or by a lost connection; only the last two may lose items, and only at the
end.

A copying task stands at either end of the wire.  It reads and writes in pieces
of any size, notes the end of what it reads, writes out the rest and shuts its
writing side down.
-/

namespace NuxAuth.Lib.WireStream

universe u

variable {Item : Type u}

/-! ## The line from a producer to a consumer -/

/-- What flows one way, from its producer to its consumer. -/
structure Conveyor (Item : Type u) where
  /-- produced, not yet read by the sender -/
  waiting : List Item := []
  /-- read by the sender, not yet sent -/
  held : List Item := []
  wire : List Item := []
  /-- received, not yet delivered -/
  taken : List Item := []
  /-- nothing more is produced -/
  ended : Bool := false
  /-- nothing more enters the wire -/
  closed : Bool := false
  /-- something that was produced may never arrive -/
  lossy : Bool := false
deriving DecidableEq

namespace Conveyor

/-- The producer hands over more. -/
def produce (chunk : List Item) (line : Conveyor Item) : Conveyor Item :=
  { line with waiting := line.waiting ++ chunk }

/-- The producer is done. -/
def finish (line : Conveyor Item) : Conveyor Item :=
  { line with ended := true }

/-- The sender reads so much. -/
def load (count : Nat) (line : Conveyor Item) : Conveyor Item :=
  { line with
    held := line.held ++ line.waiting.take count
    waiting := line.waiting.drop count }

/-- The sender sends so much. -/
def send (count : Nat) (line : Conveyor Item) : Conveyor Item :=
  { line with
    wire := line.wire ++ line.held.take count
    held := line.held.drop count }

/-- The receiver takes so much off the wire. -/
def receive (count : Nat) (line : Conveyor Item) : Conveyor Item :=
  { line with
    taken := line.taken ++ line.wire.take count
    wire := line.wire.drop count }

/-- The first items that were taken leave the line. -/
def release (count : Nat) (line : Conveyor Item) : Conveyor Item :=
  { line with taken := line.taken.drop count }

/-- The sender is done. -/
def close (line : Conveyor Item) : Conveyor Item :=
  { line with closed := true }

/-- The sender is gone, with everything it had not sent. -/
def abandon (line : Conveyor Item) : Conveyor Item :=
  if line.closed then
    line
  else
    { line with waiting := [], held := [], closed := true, lossy := true }

/-- The connection is lost: only the first items on the wire still arrive. -/
def lose (kept : Nat) (line : Conveyor Item) : Conveyor Item :=
  if line.closed ∧ line.wire.length ≤ kept then
    line
  else
    { line with wire := line.wire.take kept, closed := true, lossy := true }

/-! What is gone with the sender or with the connection. -/

section Gone

variable (line : Conveyor Item) (kept : Nat)

@[simp]
theorem abandon_taken : line.abandon.taken = line.taken := by
  unfold abandon
  split <;> rfl

@[simp]
theorem abandon_wire : line.abandon.wire = line.wire := by
  unfold abandon
  split <;> rfl

@[simp]
theorem abandon_ended : line.abandon.ended = line.ended := by
  unfold abandon
  split <;> rfl

@[simp]
theorem abandon_closed : line.abandon.closed = true := by
  unfold abandon
  split
  · assumption
  · rfl

theorem abandon_of_closed {line : Conveyor Item}
    (closed : line.closed = true) : line.abandon = line :=
  if_pos closed

theorem abandon_held {line : Conveyor Item} (held : line.held = []) :
    line.abandon.held = [] := by
  unfold abandon
  split
  · exact held
  · rfl

theorem abandon_waiting {line : Conveyor Item} (waiting : line.waiting = []) :
    line.abandon.waiting = [] := by
  unfold abandon
  split
  · exact waiting
  · rfl

@[simp]
theorem lose_taken : (line.lose kept).taken = line.taken := by
  unfold lose
  split <;> rfl

@[simp]
theorem lose_held : (line.lose kept).held = line.held := by
  unfold lose
  split <;> rfl

@[simp]
theorem lose_waiting : (line.lose kept).waiting = line.waiting := by
  unfold lose
  split <;> rfl

@[simp]
theorem lose_ended : (line.lose kept).ended = line.ended := by
  unfold lose
  split <;> rfl

theorem lose_wire {line : Conveyor Item} (wire : line.wire = []) :
    (line.lose kept).wire = [] := by
  unfold lose
  split
  · exact wire
  · simp [wire]

@[simp]
theorem lose_closed : (line.lose kept).closed = true := by
  unfold lose
  split
  · rename_i arrived
    exact arrived.1
  · rfl

end Gone

/-- What the receiver can still get. -/
def coming (line : Conveyor Item) : List Item :=
  line.taken ++ line.wire ++
    bif line.closed then [] else line.held ++ line.waiting

/-- What was delivered, and what can still come, of everything produced. -/
structure Carries (line : Conveyor Item)
    (delivered total : List Item) : Prop where
  arrives : delivered ++ line.coming <+: total
  whole : line.lossy = false → delivered ++ line.coming = total
  closed_of_lossy : line.lossy = true → line.closed = true
  ended_of_closed : line.closed = true → line.lossy = false →
    line.ended = true

variable {line : Conveyor Item} {delivered total chunk : List Item}
    {count kept : Nat}

theorem carries_empty : Carries ({} : Conveyor Item) [] [] :=
  ⟨List.nil_prefix, fun _ => rfl, by simp, by simp⟩

/-- What arrives is the beginning of what was produced. -/
theorem Carries.delivered_prefix (carries : line.Carries delivered total) :
    delivered <+: total :=
  (List.prefix_append _ _).trans carries.arrives

theorem Carries.not_lossy (carries : line.Carries delivered total)
    (opened : line.closed = false) : line.lossy = false := by
  cases lost : line.lossy with
  | false => rfl
  | true =>
      rw [carries.closed_of_lossy lost] at opened
      cases opened

/-- Nothing is lost on an open line. -/
theorem Carries.whole_of_open (carries : line.Carries delivered total)
    (opened : line.closed = false) :
    delivered ++ (line.taken ++ line.wire ++ (line.held ++ line.waiting)) =
      total := by
  have whole := carries.whole (carries.not_lossy opened)
  simpa only [coming, opened, cond_false] using whole

/-- What comes over an emptied line that was closed by its sender has come. -/
theorem Carries.complete (carries : line.Carries delivered total)
    (exact : line.lossy = false) (closed : line.closed = true)
    (wire : line.wire = []) (taken : line.taken = []) :
    delivered = total := by
  simpa [coming, closed, wire, taken] using carries.whole exact

/-- A line on which the same is still to come carries the same. -/
theorem Carries.congr {other : Conveyor Item}
    (carries : line.Carries delivered total)
    (coming : other.coming = line.coming) (lossy : other.lossy = line.lossy)
    (closed : other.closed = line.closed) (ended : other.ended = line.ended) :
    other.Carries delivered total := by
  rcases carries with ⟨arrives, whole, lost, closing⟩
  refine ⟨?_, ?_, ?_, ?_⟩
  · rwa [coming]
  · rwa [coming, lossy]
  · rwa [lossy, closed]
  · rwa [closed, lossy, ended]

theorem Carries.produce (carries : line.Carries delivered total)
    (producing : line.ended = false) (chunk : List Item) :
    (line.produce chunk).Carries delivered (total ++ chunk) := by
  cases closed : line.closed with
  | false =>
      have whole := carries.whole_of_open closed
      have same : delivered ++ (line.produce chunk).coming =
          total ++ chunk := by
        rw [← whole]
        simp [coming, Conveyor.produce, closed]
      refine ⟨?_, fun _ => same, carries.closed_of_lossy,
        carries.ended_of_closed⟩
      exact ⟨[], by rw [List.append_nil, same]⟩
  | true =>
      have lost : line.lossy ≠ false := by
        intro exact
        rw [carries.ended_of_closed closed exact] at producing
        cases producing
      have same : (line.produce chunk).coming = line.coming := by
        simp [coming, Conveyor.produce, closed]
      refine ⟨?_, fun exact => absurd exact lost, carries.closed_of_lossy,
        carries.ended_of_closed⟩
      rw [same]
      exact carries.arrives.trans (List.prefix_append _ _)

theorem Carries.finish (carries : line.Carries delivered total) :
    line.finish.Carries delivered total :=
  ⟨carries.arrives, carries.whole, carries.closed_of_lossy, fun _ _ => rfl⟩

theorem Carries.load (carries : line.Carries delivered total) (count : Nat) :
    (line.load count).Carries delivered total := by
  refine carries.congr ?_ rfl rfl rfl
  simp [coming, Conveyor.load]

theorem Carries.send (carries : line.Carries delivered total)
    (opened : line.closed = false) (count : Nat) :
    (line.send count).Carries delivered total := by
  refine carries.congr ?_ rfl rfl rfl
  simp only [coming, Conveyor.send, opened, cond_false, List.append_assoc]
  rw [← List.append_assoc (line.held.take count), List.take_append_drop]

theorem Carries.receive (carries : line.Carries delivered total)
    (count : Nat) :
    (line.receive count).Carries delivered total := by
  refine carries.congr ?_ rfl rfl rfl
  simp [coming, Conveyor.receive]

/-- What leaves the line has been delivered. -/
theorem Carries.release (carries : line.Carries delivered total)
    (count : Nat) :
    (line.release count).Carries (delivered ++ line.taken.take count)
      total := by
  have same : delivered ++ line.taken.take count ++
      (line.release count).coming = delivered ++ line.coming := by
    simp only [coming, Conveyor.release, List.append_assoc]
    rw [← List.append_assoc (line.taken.take count), List.take_append_drop]
  rcases carries with ⟨arrives, whole, lost, closing⟩
  refine ⟨?_, ?_, lost, closing⟩
  · rwa [same]
  · rwa [same]

theorem Carries.close (carries : line.Carries delivered total)
    (waiting : line.waiting = []) (held : line.held = [])
    (ended : line.ended = true) :
    line.close.Carries delivered total := by
  have same : line.close.coming = line.coming := by
    simp [coming, Conveyor.close, waiting, held]
  rcases carries with ⟨arrives, whole, lost, closing⟩
  refine ⟨?_, ?_, fun _ => rfl, fun _ _ => ended⟩
  · rwa [same]
  · rwa [same]

theorem Carries.abandon (carries : line.Carries delivered total) :
    line.abandon.Carries delivered total := by
  cases closed : line.closed with
  | true => simpa [Conveyor.abandon, closed] using carries
  | false =>
      have gone : line.abandon = { line with
          waiting := [], held := [], closed := true, lossy := true } := by
        simp [Conveyor.abandon, closed]
      rw [gone]
      refine ⟨?_, by simp, by simp, by simp⟩
      rw [← carries.whole_of_open closed]
      simp only [coming, cond_true, List.append_nil]
      rw [← List.append_assoc delivered (line.taken ++ line.wire)]
      exact List.prefix_append _ _

theorem Carries.lose (carries : line.Carries delivered total) (kept : Nat) :
    (line.lose kept).Carries delivered total := by
  unfold Conveyor.lose
  split
  · exact carries
  · refine ⟨?_, by simp, by simp, by simp⟩
    refine List.IsPrefix.trans ?_ carries.arrives
    simp only [coming, cond_true, List.append_nil]
    rw [List.prefix_append_right_inj, List.append_assoc,
      List.prefix_append_right_inj]
    exact (List.take_prefix _ _).trans (List.prefix_append _ _)

end Conveyor

/-! ## Copying in one direction -/

/-- Where a copy in one direction stands. -/
inductive CopyPhase where
  | copying
  | ending
  | finished
deriving DecidableEq

/-- What a copying task does next. -/
inductive CopyOp where
  | read (count : Nat)
  | endOfStream
  | write (count : Nat)
  | shutdown

/-- The task before the wire. -/
def sendHop (phase : CopyPhase) (line : Conveyor Item) :
    CopyOp → Option (CopyPhase × Conveyor Item)
  | .read count =>
      if phase = .copying ∧ 0 < count ∧ count ≤ line.waiting.length then
        some (phase, line.load count)
      else
        none
  | .endOfStream =>
      if phase = .copying ∧ line.waiting = [] ∧ line.ended = true then
        some (.ending, line)
      else
        none
  | .write count =>
      if line.closed = false ∧ 0 < count ∧ count ≤ line.held.length then
        some (phase, line.send count)
      else
        none
  | .shutdown =>
      if phase = .ending ∧ line.held = [] ∧ line.closed = false then
        some (.finished, line.close)
      else
        none

/-- The task behind the wire, and what it hands to the consumer. -/
def receiveHop (phase : CopyPhase) (line : Conveyor Item) :
    CopyOp → Option (CopyPhase × Conveyor Item × List Item)
  | .read count =>
      if phase = .copying ∧ 0 < count ∧ count ≤ line.wire.length then
        some (phase, line.receive count, [])
      else
        none
  | .endOfStream =>
      if phase = .copying ∧ line.wire = [] ∧ line.closed = true then
        some (.ending, line, [])
      else
        none
  | .write count =>
      if 0 < count ∧ count ≤ line.taken.length then
        some (phase, line.release count, line.taken.take count)
      else
        none
  | .shutdown =>
      if phase = .ending ∧ line.taken = [] then
        some (.finished, line, [])
      else
        none

/-- How far the sending task got, as the line shows it. -/
structure Sending (phase : CopyPhase) (line : Conveyor Item) : Prop where
  ended : phase ≠ .copying → line.waiting = [] ∧ line.ended = true
  finished : phase = .finished → line.held = [] ∧ line.closed = true

/-- How far the receiving task got. -/
structure Receiving (phase : CopyPhase) (line : Conveyor Item) : Prop where
  ended : phase ≠ .copying → line.wire = [] ∧ line.closed = true
  finished : phase = .finished → line.taken = []

theorem sending_copying (line : Conveyor Item) : Sending .copying line :=
  ⟨fun other => absurd rfl other, by rintro ⟨⟩⟩

theorem receiving_copying (line : Conveyor Item) : Receiving .copying line :=
  ⟨fun other => absurd rfl other, by rintro ⟨⟩⟩

theorem Receiving.copying_of_open {phase : CopyPhase} {line : Conveyor Item}
    (receiving : Receiving phase line) (opened : line.closed = false) :
    phase = .copying := by
  by_contra other
  have closed := (receiving.ended other).2
  rw [opened] at closed
  cases closed

section Hops

variable {phase next other : CopyPhase} {line after : Conveyor Item}
    {delivered total chunk : List Item} {op : CopyOp}

/-- How much an operation writes. -/
def CopyOp.written : CopyOp → Nat
  | .write count => count
  | _ => 0

/-- Sending loses nothing and reorders nothing. -/
theorem sendHop_carries (carries : line.Carries delivered total)
    (sending : Sending phase line)
    (taken : sendHop phase line op = some (next, after)) :
    after.Carries delivered total := by
  cases op with
  | read count =>
      rcases Option.ite_none_right_eq_some.mp taken with ⟨-, same⟩
      cases same
      exact carries.load count
  | endOfStream =>
      rcases Option.ite_none_right_eq_some.mp taken with ⟨-, same⟩
      cases same
      exact carries
  | write count =>
      rcases Option.ite_none_right_eq_some.mp taken with ⟨opened, same⟩
      cases same
      exact carries.send opened.1 count
  | shutdown =>
      rcases Option.ite_none_right_eq_some.mp taken with
        ⟨⟨rfl, held, -⟩, same⟩
      cases same
      rcases sending.ended (by decide) with ⟨waiting, ended⟩
      exact carries.close waiting held ended

theorem sendHop_sending (sending : Sending phase line)
    (taken : sendHop phase line op = some (next, after)) :
    Sending next after := by
  cases op with
  | read count =>
      rcases Option.ite_none_right_eq_some.mp taken with ⟨⟨rfl, -⟩, same⟩
      cases same
      exact sending_copying _
  | endOfStream =>
      rcases Option.ite_none_right_eq_some.mp taken with
        ⟨⟨-, nothing, ended⟩, same⟩
      cases same
      exact ⟨fun _ => ⟨nothing, ended⟩, by rintro ⟨⟩⟩
  | write count =>
      rcases Option.ite_none_right_eq_some.mp taken with ⟨opened, same⟩
      cases same
      refine ⟨sending.ended, ?_⟩
      intro finished
      have closed := (sending.finished finished).2
      rw [opened.1] at closed
      cases closed
  | shutdown =>
      rcases Option.ite_none_right_eq_some.mp taken with
        ⟨⟨rfl, held, -⟩, same⟩
      cases same
      exact ⟨fun _ => sending.ended (by decide), fun _ => ⟨held, rfl⟩⟩

/-- What the receiving task has noted stays true while the other sends. -/
theorem sendHop_receiving (receiving : Receiving other line)
    (taken : sendHop phase line op = some (next, after)) :
    Receiving other after := by
  cases op with
  | read count =>
      rcases Option.ite_none_right_eq_some.mp taken with ⟨-, same⟩
      cases same
      exact ⟨receiving.ended, receiving.finished⟩
  | endOfStream =>
      rcases Option.ite_none_right_eq_some.mp taken with ⟨-, same⟩
      cases same
      exact receiving
  | write count =>
      rcases Option.ite_none_right_eq_some.mp taken with ⟨opened, same⟩
      cases same
      rw [receiving.copying_of_open opened.1]
      exact receiving_copying _
  | shutdown =>
      rcases Option.ite_none_right_eq_some.mp taken with ⟨-, same⟩
      cases same
      exact ⟨fun ended => ⟨(receiving.ended ended).1, rfl⟩,
        receiving.finished⟩

/-- Only what is written leaves the sender. -/
theorem sendHop_left
    (taken : sendHop phase line op = some (next, after)) :
    op.written + (after.held.length + after.waiting.length) =
      line.held.length + line.waiting.length := by
  cases op with
  | read count =>
      rcases Option.ite_none_right_eq_some.mp taken with ⟨⟨-, -, enough⟩, same⟩
      cases same
      simp only [CopyOp.written, Conveyor.load, List.length_append,
        List.length_take, List.length_drop]
      omega
  | endOfStream =>
      rcases Option.ite_none_right_eq_some.mp taken with ⟨-, same⟩
      cases same
      exact Nat.zero_add _
  | write count =>
      rcases Option.ite_none_right_eq_some.mp taken with ⟨⟨-, -, enough⟩, same⟩
      cases same
      simp only [CopyOp.written, Conveyor.send, List.length_drop]
      omega
  | shutdown =>
      rcases Option.ite_none_right_eq_some.mp taken with ⟨-, same⟩
      cases same
      exact Nat.zero_add _

theorem sendHop_frame
    (taken : sendHop phase line op = some (next, after)) :
    after.taken = line.taken ∧ after.ended = line.ended ∧
      after.lossy = line.lossy ∧
        (line.closed = true → after.closed = true ∧ after.wire = line.wire) := by
  cases op with
  | read count =>
      rcases Option.ite_none_right_eq_some.mp taken with ⟨-, same⟩
      cases same
      exact ⟨rfl, rfl, rfl, fun closed => ⟨closed, rfl⟩⟩
  | endOfStream =>
      rcases Option.ite_none_right_eq_some.mp taken with ⟨-, same⟩
      cases same
      exact ⟨rfl, rfl, rfl, fun closed => ⟨closed, rfl⟩⟩
  | write count =>
      rcases Option.ite_none_right_eq_some.mp taken with ⟨opened, same⟩
      cases same
      refine ⟨rfl, rfl, rfl, ?_⟩
      intro closed
      rw [opened.1] at closed
      cases closed
  | shutdown =>
      rcases Option.ite_none_right_eq_some.mp taken with ⟨-, same⟩
      cases same
      exact ⟨rfl, rfl, rfl, fun _ => ⟨rfl, rfl⟩⟩

/-- What the receiving task hands over continues what was delivered. -/
theorem receiveHop_carries (carries : line.Carries delivered total)
    (taken : receiveHop phase line op = some (next, after, chunk)) :
    after.Carries (delivered ++ chunk) total := by
  cases op with
  | read count =>
      rcases Option.ite_none_right_eq_some.mp taken with ⟨-, same⟩
      cases same
      rw [List.append_nil]
      exact carries.receive count
  | endOfStream =>
      rcases Option.ite_none_right_eq_some.mp taken with ⟨-, same⟩
      cases same
      rwa [List.append_nil]
  | write count =>
      rcases Option.ite_none_right_eq_some.mp taken with ⟨-, same⟩
      cases same
      exact carries.release count
  | shutdown =>
      rcases Option.ite_none_right_eq_some.mp taken with ⟨-, same⟩
      cases same
      rwa [List.append_nil]

theorem receiveHop_receiving (receiving : Receiving phase line)
    (taken : receiveHop phase line op = some (next, after, chunk)) :
    Receiving next after := by
  cases op with
  | read count =>
      rcases Option.ite_none_right_eq_some.mp taken with ⟨⟨rfl, -⟩, same⟩
      cases same
      exact receiving_copying _
  | endOfStream =>
      rcases Option.ite_none_right_eq_some.mp taken with ⟨⟨-, closing⟩, same⟩
      cases same
      exact ⟨fun _ => closing, by rintro ⟨⟩⟩
  | write count =>
      rcases Option.ite_none_right_eq_some.mp taken with
        ⟨⟨some, enough⟩, same⟩
      cases same
      refine ⟨receiving.ended, ?_⟩
      intro finished
      have nothing := receiving.finished finished
      rw [nothing, List.length_nil] at enough
      omega
  | shutdown =>
      rcases Option.ite_none_right_eq_some.mp taken with
        ⟨⟨rfl, nothing⟩, same⟩
      cases same
      exact ⟨fun _ => receiving.ended (by decide), fun _ => nothing⟩

/-- The receiving task touches nothing in front of the wire. -/
theorem receiveHop_frame
    (taken : receiveHop phase line op = some (next, after, chunk)) :
    after.held = line.held ∧ after.waiting = line.waiting ∧
      after.ended = line.ended ∧ after.closed = line.closed ∧
        after.lossy = line.lossy ∧ chunk.length = op.written := by
  cases op with
  | read count =>
      rcases Option.ite_none_right_eq_some.mp taken with ⟨-, same⟩
      cases same
      exact ⟨rfl, rfl, rfl, rfl, rfl, rfl⟩
  | endOfStream =>
      rcases Option.ite_none_right_eq_some.mp taken with ⟨-, same⟩
      cases same
      exact ⟨rfl, rfl, rfl, rfl, rfl, rfl⟩
  | write count =>
      rcases Option.ite_none_right_eq_some.mp taken with ⟨⟨-, enough⟩, same⟩
      cases same
      exact ⟨rfl, rfl, rfl, rfl, rfl, List.length_take_of_le enough⟩
  | shutdown =>
      rcases Option.ite_none_right_eq_some.mp taken with ⟨-, same⟩
      cases same
      exact ⟨rfl, rfl, rfl, rfl, rfl, rfl⟩

theorem Sending.of_frame (sending : Sending phase line)
    (held : after.held = line.held) (waiting : after.waiting = line.waiting)
    (ended : after.ended = line.ended) (closed : after.closed = line.closed) :
    Sending phase after := by
  refine ⟨?_, ?_⟩
  · rw [waiting, ended]
    exact sending.ended
  · rw [held, closed]
    exact sending.finished

/-! What the tasks have noted stays true when the other end goes. -/

theorem Sending.abandon (sending : Sending phase line) :
    Sending phase line.abandon := by
  refine ⟨?_, ?_⟩
  · intro ended
    rcases sending.ended ended with ⟨waiting, stopped⟩
    exact ⟨Conveyor.abandon_waiting waiting, by simpa using stopped⟩
  · intro finished
    exact ⟨Conveyor.abandon_held (sending.finished finished).1, by simp⟩

theorem Receiving.abandon (receiving : Receiving phase line) :
    Receiving phase line.abandon := by
  refine ⟨?_, ?_⟩
  · intro ended
    exact ⟨by simpa using (receiving.ended ended).1, by simp⟩
  · intro finished
    simpa using receiving.finished finished

theorem Sending.lose (sending : Sending phase line) (kept : Nat) :
    Sending phase (line.lose kept) := by
  refine ⟨?_, ?_⟩
  · intro ended
    simpa using sending.ended ended
  · intro finished
    simpa using (sending.finished finished).1

theorem Receiving.lose (receiving : Receiving phase line) (kept : Nat) :
    Receiving phase (line.lose kept) := by
  refine ⟨?_, ?_⟩
  · intro ended
    exact ⟨Conveyor.lose_wire kept (receiving.ended ended).1, by simp⟩
  · intro finished
    simpa using receiving.finished finished

theorem Sending.produce (sending : Sending phase line)
    (producing : line.ended = false) (chunk : List Item) :
    Sending phase (line.produce chunk) := by
  have copying : phase = .copying := by
    by_contra other
    have ended := (sending.ended other).2
    rw [producing] at ended
    cases ended
  rw [copying]
  exact sending_copying _

theorem Sending.finish (sending : Sending phase line) :
    Sending phase line.finish :=
  ⟨fun ended => ⟨(sending.ended ended).1, rfl⟩, sending.finished⟩

end Hops

end NuxAuth.Lib.WireStream
