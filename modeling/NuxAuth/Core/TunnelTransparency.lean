import NuxAuth.Core.TunnelLink

/-!
# What a tunnel carries

Whatever the order in which the two tasks, the two programs and the network
move, the service receives the beginning of what the local program wrote and
the local program the beginning of what the service wrote: no byte of the
opening frame or of the acknowledgement reaches either, and none is lost,
repeated or reordered.  A Client whose stream was acknowledged agrees with the
Guard on the header, and a refused one learns nothing.
-/

namespace NuxAuth.Core

open NuxAuth.Lib.Bincode NuxAuth.Lib.RecordedRun NuxAuth.Lib.WireStream

/-! ## Reading a frame piece by piece -/

/-- A reader that asks for no more than the frame announces reads the frame and
nothing behind it. -/
theorem readHeader_of_frame {header : TunnelHeader}
    {frame received : List UInt8}
    (sent : writeHeader header [] = (frame, .ok ()))
    (front : received <+: frame) :
    received.length + TunnelLink.headerDemand received ≤ frame.length ∧
      (received.length < frame.length →
        readHeader received = .incomplete) ∧
        (received = frame → readHeader received = .complete header []) := by
  rcases writeHeader_cases header [] with
    ⟨bytes, encoded, short, result⟩ | ⟨-, error, result⟩
  · rw [result] at sent
    cases sent
    have limit : maxTunnelHeaderSize = 1024 := rfl
    have value := bigEndianValue_u16Bytes (show bytes.length < 2 ^ 16 by omega)
    simp only [u16Bytes, bigEndianValue, List.foldl_cons, List.foldl_nil,
      Nat.zero_mul, Nat.zero_add] at value
    simp only [List.nil_append, u16Bytes, List.cons_append] at front ⊢
    rcases received with _ | ⟨high, _ | ⟨low, body⟩⟩
    · exact ⟨by simp [TunnelLink.headerDemand], fun _ => rfl, by simp⟩
    · exact ⟨by simp [TunnelLink.headerDemand], fun _ => rfl, by simp⟩
    · rw [List.cons_prefix_cons, List.cons_prefix_cons] at front
      rcases front with ⟨rfl, rfl, front⟩
      have within := front.length_le
      refine ⟨?_, ?_, ?_⟩
      · simp only [TunnelLink.headerDemand, value, List.length_cons]
        omega
      · intro fewer
        simp only [List.length_cons] at fewer
        rw [readHeader, value, if_neg (Nat.not_lt.mpr short),
          if_pos (by omega)]
      · intro same
        cases same
        have decoded : decode bytes = some header :=
          ((roundTrips TunnelHeader).decode_encode header bytes encoded).2
        rw [decode_tunnelHeader] at decoded
        rw [readHeader, value, if_neg (Nat.not_lt.mpr short),
          if_neg (Nat.lt_irrefl _), List.take_length, List.drop_length]
        simp only [decoded]
  · rw [result] at sent
    cases sent

/-! ## From the local program to the service -/

namespace TunnelLink

/-- The frame in front of what the local program writes. -/
def preamble (link : TunnelLink) : List UInt8 :=
  match link.declared with
  | none => []
  | some header => (writeHeader header []).1

/-- The acknowledgement in front of what the service writes. -/
def announced (link : TunnelLink) : List UInt8 :=
  if link.acked then [tunnelAck] else []

end TunnelLink

open TunnelLink

variable {PeerId : Type} [DecidableEq PeerId]

/-- The stream carries the frame and then the bytes of the local program; the
Guard's reader takes the frame off it and decides on that header. -/
structure CarriesUp (registry : TunnelRegistry PeerId) (peer : PeerId)
    (roles : List String) (service : String) (link : TunnelLink) : Prop where
  carries : link.up.Carries (link.headerRead ++ link.service.received)
    (link.preamble ++ link.localProgram.written)
  declared : ∀ header, link.declared = some header →
    header.service = service ∧ (writeHeader header []).2 = .ok ()
  opening : link.client = .opening → link.declared = none
  started : link.declared = none →
    link.client = .opening ∨ ∃ error, link.client = .refused error
  undeclared : link.declared = none →
    link.up.taken = [] ∧ link.up.wire = [] ∧ link.up.held = [] ∧
      link.headerRead = [] ∧ link.service.received = []
  reading : ∀ received, link.guard = .serving (.readingHeader received) →
    link.headerRead = received ∧ link.service.received = [] ∧
      link.up.taken = [] ∧ received.length ≤ link.preamble.length
  decided : ∀ stage header exposed, link.guard = .serving stage →
    stage.admitted? = some (header, exposed) →
      link.declared = some header ∧ link.headerRead = link.preamble ∧
        admitHeader registry peer roles header = some exposed
  quiet : link.service.received = [] ∨ link.headerRead = link.preamble

section Up

variable {registry : TunnelRegistry PeerId} {peer : PeerId}
    {roles : List String} {service : String} {link next : TunnelLink}
    {event : LinkEvent} {actions : List ServeAction}

theorem carriesUp_start : CarriesUp registry peer roles service {} where
  carries := Conveyor.carries_empty
  declared := by rintro header ⟨⟩
  opening := fun _ => rfl
  started := fun _ => Or.inl rfl
  undeclared := fun _ => ⟨rfl, rfl, rfl, rfl, rfl⟩
  reading := by
    rintro received ⟨⟩
    exact ⟨rfl, rfl, rfl, le_refl 0⟩
  decided := by
    rintro stage header exposed ⟨⟩ ⟨⟩
  quiet := Or.inl rfl

theorem CarriesUp.sent (inv : CarriesUp registry peer roles service link)
    {header : TunnelHeader} (declared : link.declared = some header) :
    writeHeader header [] = (link.preamble, .ok ()) := by
  have written := (inv.declared header declared).2
  rw [preamble, declared]
  rw [← written]

/-- What `read_header` takes next still belongs to the frame. -/
theorem CarriesUp.read (inv : CarriesUp registry peer roles service link)
    {received : List UInt8} {count : Nat}
    (reading : link.guard = .serving (.readingHeader received))
    (asked : count ≤ headerDemand received) :
    (link.readOn count).up.Carries
        ((link.readOn count).headerRead ++ link.service.received)
        (link.preamble ++ link.localProgram.written) ∧
      (link.readOn count).headerRead =
        received ++ link.up.wire.take count ∧
      (received ++ link.up.wire.take count).length ≤ link.preamble.length ∧
      ∀ header rest,
        readHeader (received ++ link.up.wire.take count) =
            .complete header rest →
          link.declared = some header ∧
            received ++ link.up.wire.take count = link.preamble := by
  rcases inv.reading received reading with ⟨same, silent, taken, within⟩
  have carries := (inv.carries.receive count).release count
  have moved : (link.up.receive count).release count =
      { link.up with wire := link.up.wire.drop count } := by
    simp only [Conveyor.receive, Conveyor.release, taken, List.nil_append]
    rw [List.drop_of_length_le (List.length_take_le count link.up.wire)]
  have chunk : (link.up.receive count).taken.take count =
      link.up.wire.take count := by
    simp only [Conveyor.receive, taken, List.nil_append, List.take_take,
      Nat.min_self]
  rw [moved, chunk, silent, List.append_nil] at carries
  have arrived : (received ++ link.up.wire.take count) <+:
      link.preamble ++ link.localProgram.written := by
    rw [← same]
    exact carries.delivered_prefix
  refine ⟨?_, ?_, ?_⟩
  · rw [silent, List.append_nil]
    exact carries
  · rw [readOn, same]
  · cases declared : link.declared with
    | none =>
        have wire := (inv.undeclared declared).2.1
        have nothing : link.preamble = [] := by
          rw [preamble, declared]
        rw [nothing, List.length_nil, Nat.le_zero, List.length_eq_zero_iff]
          at within
        rw [wire, within]
        refine ⟨by simp, ?_⟩
        intro header rest complete
        simp [readHeader] at complete
    | some header =>
        have sent := inv.sent declared
        have front : received <+: link.preamble :=
          List.prefix_of_prefix_length_le
            ((List.prefix_append _ _).trans arrived)
            (List.prefix_append _ _) within
        have bound := (readHeader_of_frame sent front).1
        have size : (received ++ link.up.wire.take count).length ≤
            link.preamble.length := by
          rw [List.length_append, List.length_take]
          omega
        have whole := List.prefix_of_prefix_length_le arrived
          (List.prefix_append _ _) size
        rcases readHeader_of_frame sent whole with ⟨-, early, final⟩
        refine ⟨size, ?_⟩
        intro other rest complete
        rcases Nat.lt_or_eq_of_le size with fewer | all
        · rw [early fewer] at complete
          cases complete
        · have full := whole.eq_of_length all
          rw [final full] at complete
          cases complete
          exact ⟨rfl, full⟩

/-- Before a header is declared there is nothing to read. -/
theorem CarriesUp.readOn_undeclared
    (inv : CarriesUp registry peer roles service link) {count : Nat}
    (undeclared : link.declared = none) :
    (link.readOn count).up.taken = [] ∧ (link.readOn count).up.wire = [] ∧
      (link.readOn count).up.held = [] ∧
        (link.readOn count).headerRead = [] ∧ link.service.received = [] := by
  rcases inv.undeclared undeclared with
    ⟨taken, wire, held, headerRead, received⟩
  simp [readOn, taken, wire, held, headerRead, received]

/-- Whatever becomes of the Client, a line that carried still does. -/
theorem CarriesUp.clientEnds
    (inv : CarriesUp registry peer roles service link) {stage : ClientStage}
    (other : stage ≠ .opening)
    (started : link.declared = none → ∃ error, stage = .refused error) :
    CarriesUp registry peer roles service (link.clientEnds stage) where
  carries := inv.carries.abandon
  declared := inv.declared
  opening := fun opening => absurd opening other
  started := fun undeclared => Or.inr (started undeclared)
  undeclared := by
    intro undeclared
    rcases inv.undeclared undeclared with ⟨taken, wire, held, silent⟩
    exact ⟨by simpa [TunnelLink.clientEnds] using taken,
      by simpa [TunnelLink.clientEnds] using wire,
      Conveyor.abandon_held held, silent⟩
  reading := by
    intro received reading
    rcases inv.reading received reading with ⟨same, silent, taken, within⟩
    exact ⟨same, silent, by simpa [TunnelLink.clientEnds] using taken, within⟩
  decided := inv.decided
  quiet := inv.quiet

theorem CarriesUp.guardEnds
    (inv : CarriesUp registry peer roles service link)
    (outcome : TunnelOutcome) :
    CarriesUp registry peer roles service (link.guardEnds outcome) where
  carries := inv.carries
  declared := inv.declared
  opening := inv.opening
  started := inv.started
  undeclared := inv.undeclared
  reading := by rintro received ⟨⟩
  decided := by rintro stage header exposed ⟨⟩
  quiet := inv.quiet

/-- A Client past its first stage has declared a header. -/
theorem CarriesUp.not_started
    (inv : CarriesUp registry peer roles service link)
    (opening : link.client ≠ .opening)
    (refused : ∀ error, link.client ≠ .refused error)
    (undeclared : link.declared = none) : False := by
  rcases inv.started undeclared with same | ⟨error, same⟩
  · exact opening same
  · exact refused error same

/-- The Client goes on to a stage that only a declared header allows. -/
theorem CarriesUp.goesOn
    (inv : CarriesUp registry peer roles service link) {stage : ClientStage}
    (opening : link.client ≠ .opening)
    (refused : ∀ error, link.client ≠ .refused error)
    (other : stage ≠ .opening) :
    CarriesUp registry peer roles service { link with client := stage } :=
  { inv with
    opening := fun same => absurd same other
    started := fun undeclared =>
      (inv.not_started opening refused undeclared).elim }

theorem CarriesUp.startHeader
    (inv : CarriesUp registry peer roles service link)
    {header : TunnelHeader} {frame : List UInt8}
    (opening : link.client = .opening) (opened : link.up.closed = false)
    (named : header.service = service)
    (sent : writeHeader header [] = (frame, .ok ())) :
    CarriesUp registry peer roles service
      { link with
        client := .writingHeader
        declared := some header
        up := { link.up with held := frame } } := by
  have undeclared := inv.opening opening
  rcases inv.undeclared undeclared with
    ⟨taken, wire, held, headerRead, received⟩
  have whole := inv.carries.whole_of_open opened
  rw [preamble, undeclared, taken, wire, held, headerRead, received] at whole
  simp only [List.nil_append] at whole
  have declares : ∀ other, header = other →
      other.service = service ∧ (writeHeader other []).2 = .ok () := by
    rintro _ rfl
    rw [sent]
    exact ⟨named, rfl⟩
  refine ⟨?_, ?_, ?_, ?_, ?_, ?_, ?_, Or.inl received⟩
  · have same : link.headerRead ++ link.service.received ++
        Conveyor.coming { link.up with held := frame } =
          frame ++ link.localProgram.written := by
      simp [Conveyor.coming, opened, taken, wire, headerRead, received, whole]
    refine ⟨?_, ?_, inv.carries.closed_of_lossy, inv.carries.ended_of_closed⟩
    · rw [same, preamble]
      simp only [sent]
      exact ⟨[], List.append_nil _⟩
    · intro exact
      rw [same, preamble]
      simp only [sent]
  · intro other same
    exact declares other (Option.some.inj same)
  · rintro ⟨⟩
  · rintro ⟨⟩
  · rintro ⟨⟩
  · intro begun reading
    rcases inv.reading begun reading with ⟨same, -, -, within⟩
    rw [preamble, undeclared, List.length_nil] at within
    exact ⟨same, received, taken, within.trans (Nat.zero_le _)⟩
  · intro stage decidedHeader exposed serving admitted
    have same := (inv.decided stage decidedHeader exposed serving admitted).1
    rw [undeclared] at same
    cases same

theorem CarriesUp.step (inv : CarriesUp registry peer roles service link)
    (sending : Sending link.clientUp link.up)
    (move : LinkMove registry peer roles service link event next actions) :
    CarriesUp registry peer roles service next := by
  cases move with
  | headerStarted opening opened named sent =>
      exact inv.startHeader opening opened named sent
  | @headerSent count stage writing opened enough after =>
      have other : stage ≠ .opening := by
        rcases after with rfl | ⟨rfl, -⟩
        · simp
        · simp
      have running := inv.goesOn (by simp [writing]) (by simp [writing]) other
      exact { running with
        carries := inv.carries.send opened _
        undeclared := fun undeclared =>
          (inv.not_started (by simp [writing]) (by simp [writing])
            undeclared).elim }
  | ackHeard awaiting arrived =>
      have other : ClientStage.relaying ≠ .opening := by simp
      exact { inv.goesOn (by simp [awaiting]) (by simp [awaiting]) other with }
  | clientRefused early why =>
      exact inv.clientEnds (by simp) fun _ => ⟨_, rfl⟩
  | clientCopiedUp relaying copied =>
      have taken := (sendHop_frame copied).1
      exact { inv with
        carries := sendHop_carries inv.carries sending copied
        undeclared := fun undeclared =>
          (inv.not_started (by simp [relaying]) (by simp [relaying])
            undeclared).elim
        reading := by
          intro received reading
          rcases inv.reading received reading with ⟨same, silent, empty, fits⟩
          exact ⟨same, silent, taken.trans empty, fits⟩ }
  | clientCopiedDown relaying copied => exact { inv with }
  | clientClosed relaying up down =>
      exact inv.clientEnds (by simp) fun undeclared =>
        (inv.not_started (by simp [relaying]) (by simp [relaying])
          undeclared).elim
  | clientFailed relaying =>
      exact inv.clientEnds (by simp) fun undeclared =>
        (inv.not_started (by simp [relaying]) (by simp [relaying])
          undeclared).elim
  | headerIncomplete reading enough asked incomplete =>
      rcases inv.read reading asked with ⟨carries, same, within, -⟩
      rcases inv.reading _ reading with ⟨-, silent, taken, -⟩
      exact { inv with
        carries := carries
        undeclared := inv.readOn_undeclared
        reading := by
          rintro received ⟨⟩
          exact ⟨same, silent, taken, within⟩
        decided := by rintro stage header exposed ⟨⟩ ⟨⟩
        quiet := Or.inl silent }
  | headerAdmitted reading enough asked complete admitted =>
      rcases inv.read reading asked with ⟨carries, same, -, decides⟩
      rcases decides _ _ complete with ⟨declared, whole⟩
      exact { inv with
        carries := carries
        undeclared := inv.readOn_undeclared
        reading := by rintro received ⟨⟩
        decided := by
          rintro stage header exposed ⟨⟩ ⟨⟩
          exact ⟨declared, same.trans whole, admitted⟩
        quiet := Or.inl (inv.reading _ reading).2.1 }
  | headerDenied reading enough asked =>
      rcases inv.read reading asked with ⟨carries, -⟩
      exact { inv with
        carries := carries
        undeclared := inv.readOn_undeclared
        reading := by rintro received ⟨⟩
        decided := by rintro stage header exposed ⟨⟩
        quiet := Or.inl (inv.reading _ reading).2.1 }
  | guardDenied serving early => exact inv.guardEnds _
  | connected connecting =>
      exact { inv with
        reading := by rintro received ⟨⟩
        decided := by
          rintro stage header exposed ⟨⟩ ⟨⟩
          exact inv.decided _ _ _ connecting rfl }
  | acknowledged connected opened =>
      exact { inv with
        reading := by rintro received ⟨⟩
        decided := by
          rintro stage header exposed ⟨⟩ ⟨⟩
          exact inv.decided _ _ _ connected rfl }
  | ackLost connected opened =>
      exact { inv.guardEnds .denied with }
  | guardCopiedUp relaying copied =>
      rcases inv.decided _ _ _ relaying rfl with ⟨declared, read, -⟩
      exact { inv with
        carries := by
          have carries := receiveHop_carries inv.carries copied
          rwa [List.append_assoc] at carries
        undeclared := by
          intro undeclared
          rw [declared] at undeclared
          cases undeclared
        reading := by
          intro received reading
          rw [relaying] at reading
          cases reading
        quiet := Or.inr read }
  | guardCopiedDown relaying copied => exact { inv with }
  | guardClosed relaying up down => exact inv.guardEnds _
  | guardFailed relaying unfinished => exact inv.guardEnds _
  | @localWrote chunk writing =>
      exact { inv with
        carries := by
          have carries := inv.carries.produce writing chunk
          rw [List.append_assoc] at carries
          exact carries }
  | localEnded => exact { inv with carries := inv.carries.finish }
  | serviceWrote connected writing => exact { inv with }
  | serviceEnded => exact { inv with }
  | lost =>
      exact { inv with
        carries := inv.carries.lose _
        undeclared := by
          intro undeclared
          rcases inv.undeclared undeclared with ⟨taken, wire, held, silent⟩
          exact ⟨by simpa using taken, Conveyor.lose_wire _ wire,
            by simpa using held, silent⟩
        reading := by
          intro received reading
          rcases inv.reading received reading with ⟨same, silent, taken, fits⟩
          exact ⟨same, silent, by simpa using taken, fits⟩ }

end Up

/-! ## From the service to the local program -/

/-- The acknowledgement, once the Client has read it. -/
def ClientStage.heard : ClientStage → List UInt8
  | .relaying => [tunnelAck]
  | .relayed _ => [tunnelAck]
  | _ => []

/-- The stream carries the acknowledgement and then the bytes of the service;
the Client takes the acknowledgement off it. -/
structure CarriesDown (link : TunnelLink) : Prop where
  carries : link.down.Carries
    (link.client.heard ++ link.localProgram.received)
    (link.announced ++ link.service.written)
  unheard : link.client.heard = [] →
    link.localProgram.received = [] ∧ link.down.taken = []
  unacked : link.acked = false →
    link.client.heard = [] ∧ link.down.wire = [] ∧ link.down.held = []
  early : ∀ stage, link.guard = .serving stage → stage.Early →
    link.acked = false
  late : ∀ header exposed, link.guard = .serving (.relaying header exposed) →
    link.acked = true
  refused : ∀ error, link.client = .refused error →
    ∀ message, error ≠ .protocol message

section Down

variable {registry : TunnelRegistry PeerId} {peer : PeerId}
    {roles : List String} {service : String} {link next : TunnelLink}
    {event : LinkEvent} {actions : List ServeAction}

theorem carriesDown_start : CarriesDown {} where
  carries := Conveyor.carries_empty
  unheard := fun _ => ⟨rfl, rfl⟩
  unacked := fun _ => ⟨rfl, rfl, rfl⟩
  early := fun _ _ _ => rfl
  late := by rintro header exposed ⟨⟩
  refused := by rintro error ⟨⟩

theorem ClientStage.Early.heard {stage : ClientStage} (early : stage.Early) :
    stage.heard = [] := by
  cases stage with
  | relaying => exact early.elim
  | relayed counts => exact early.elim
  | _ => rfl

/-- The only byte that can come before the Client heard one. -/
theorem CarriesDown.first (inv : CarriesDown link)
    (unheard : link.client.heard = []) {byte : UInt8} {rest : List UInt8}
    (arrived : link.down.wire = byte :: rest) :
    byte = tunnelAck ∧ link.acked = true := by
  have acked : link.acked = true := by
    cases acked : link.acked with
    | true => rfl
    | false =>
        have nothing := (inv.unacked acked).2.1
        rw [arrived] at nothing
        cases nothing
  have arrives := inv.carries.arrives
  rw [Conveyor.coming, unheard, (inv.unheard unheard).1,
    (inv.unheard unheard).2, arrived, announced, if_pos acked] at arrives
  simp only [List.nil_append, List.cons_append] at arrives
  exact ⟨(List.cons_prefix_cons.mp arrives).1, acked⟩

/-- The acknowledgement comes before everything the service wrote. -/
theorem CarriesDown.putAck (inv : CarriesDown link)
    (unacked : link.acked = false) (opened : link.down.closed = false) :
    link.putAck.down.Carries
      (link.client.heard ++ link.localProgram.received)
      (link.putAck.announced ++ link.service.written) := by
  rcases inv.unacked unacked with ⟨unheard, wire, held⟩
  rcases inv.unheard unheard with ⟨silent, taken⟩
  have whole := inv.carries.whole_of_open opened
  rw [announced, unacked, unheard, silent, taken, wire, held] at whole
  simp only [Bool.false_eq_true, if_false, List.nil_append] at whole
  have same : link.client.heard ++ link.localProgram.received ++
      link.putAck.down.coming =
        link.putAck.announced ++ link.service.written := by
    simp [TunnelLink.putAck, announced, Conveyor.coming, opened, unheard,
      silent, taken, wire, held, whole]
  refine ⟨?_, fun _ => same, inv.carries.closed_of_lossy,
    inv.carries.ended_of_closed⟩
  exact ⟨[], by rw [List.append_nil, same]⟩

theorem CarriesDown.clientEnds (inv : CarriesDown link) {stage : ClientStage}
    (heard : stage.heard = link.client.heard)
    (refused : ∀ error, stage = .refused error →
      ∀ message, error ≠ .protocol message) :
    CarriesDown (link.clientEnds stage) :=
  { inv with
    carries := by
      have carries := inv.carries
      rw [← heard] at carries
      exact carries
    unheard := by
      intro unheard
      exact inv.unheard (heard ▸ unheard)
    unacked := by
      intro unacked
      rcases inv.unacked unacked with ⟨unheard, nothing⟩
      exact ⟨heard.trans unheard, nothing⟩
    refused := refused }

theorem CarriesDown.guardEnds (inv : CarriesDown link)
    (outcome : TunnelOutcome) :
    CarriesDown (link.guardEnds outcome) where
  carries := inv.carries.abandon
  unheard := by
    intro unheard
    rcases inv.unheard unheard with ⟨silent, taken⟩
    exact ⟨silent, by simpa [TunnelLink.guardEnds] using taken⟩
  unacked := by
    intro unacked
    rcases inv.unacked unacked with ⟨unheard, wire, held⟩
    exact ⟨unheard, by simpa [TunnelLink.guardEnds] using wire,
      Conveyor.abandon_held held⟩
  early := by rintro stage ⟨⟩
  late := by rintro header exposed ⟨⟩
  refused := inv.refused

theorem CarriesDown.step (inv : CarriesDown link)
    (sending : Sending link.guardDown link.down)
    (move : LinkMove registry peer roles service link event next actions) :
    CarriesDown next := by
  cases move with
  | headerStarted opening opened named sent =>
      have unheard : ClientStage.heard .writingHeader =
          link.client.heard := by
        rw [opening]
        rfl
      exact { inv.clientEnds unheard (by rintro error ⟨⟩) with }
  | @headerSent count stage writing opened enough after =>
      have unheard : stage.heard = link.client.heard := by
        rw [writing]
        rcases after with rfl | ⟨rfl, -⟩
        · rfl
        · rfl
      have quiet : ∀ error, stage = .refused error →
          ∀ message, error ≠ .protocol message := by
        rcases after with rfl | ⟨rfl, -⟩
        · rintro error ⟨⟩
        · rintro error ⟨⟩
      exact { inv.clientEnds unheard quiet with }
  | @ackHeard event rest awaiting arrived =>
      have unheard : link.client.heard = [] := by
        rw [awaiting]
        rfl
      rcases inv.unheard unheard with ⟨silent, taken⟩
      have acked := (inv.first unheard arrived).2
      have carries := (inv.carries.receive 1).release 1
      have first : (link.down.receive 1).taken.take 1 = [tunnelAck] := by
        rw [Conveyor.receive, taken, arrived]
        rfl
      rw [unheard, silent, first] at carries
      exact {
        carries := by
          rw [silent]
          exact carries
        unheard := by rintro ⟨⟩
        unacked := by
          intro unacked
          rw [acked] at unacked
          cases unacked
        early := inv.early
        late := inv.late
        refused := by rintro error ⟨⟩ }
  | clientRefused early why =>
      refine inv.clientEnds early.heard.symm ?_
      rintro _ ⟨⟩ message protocol
      rcases why with other | ⟨byte, rest, arrived, other, -⟩
      · exact other message protocol
      · exact other (inv.first early.heard arrived).1
  | clientCopiedUp relaying copied => exact { inv with }
  | clientCopiedDown relaying copied =>
      have heard : link.client.heard = [tunnelAck] := by
        rw [relaying]
        rfl
      exact { inv with
        carries := by
          have carries := receiveHop_carries inv.carries copied
          rwa [List.append_assoc] at carries
        unheard := by
          intro unheard
          rw [heard] at unheard
          cases unheard
        unacked := by
          intro unacked
          have unheard := (inv.unacked unacked).1
          rw [heard] at unheard
          cases unheard }
  | clientClosed relaying up down =>
      exact inv.clientEnds (by rw [relaying]; rfl) (by rintro error ⟨⟩)
  | clientFailed relaying =>
      exact inv.clientEnds (by rw [relaying]; rfl) (by rintro error ⟨⟩)
  | headerIncomplete reading enough asked incomplete =>
      have unacked := inv.early _ reading trivial
      exact { inv with
        early := fun _ _ _ => unacked
        late := by rintro header exposed ⟨⟩ }
  | headerAdmitted reading enough asked complete admitted =>
      have unacked := inv.early _ reading trivial
      exact { inv with
        early := fun _ _ _ => unacked
        late := by rintro header exposed ⟨⟩ }
  | headerDenied reading enough asked => exact { inv.guardEnds .denied with }
  | guardDenied serving early => exact inv.guardEnds _
  | connected connecting =>
      have unacked := inv.early _ connecting trivial
      exact { inv with
        early := fun _ _ _ => unacked
        late := by rintro header exposed ⟨⟩ }
  | acknowledged connected opened =>
      have unacked := inv.early _ connected trivial
      exact { inv with
        carries := inv.putAck unacked opened
        unacked := by rintro ⟨⟩
        early := by
          rintro stage ⟨⟩ early
          exact early.elim
        late := fun _ _ _ => rfl }
  | ackLost connected opened =>
      have unacked := inv.early _ connected trivial
      exact {
        carries := (inv.putAck unacked opened).abandon
        unheard := by
          intro unheard
          rcases inv.unheard unheard with ⟨silent, taken⟩
          exact ⟨silent, by
            simpa [TunnelLink.guardEnds, TunnelLink.putAck] using taken⟩
        unacked := by rintro ⟨⟩
        early := by rintro stage ⟨⟩
        late := by rintro header exposed ⟨⟩
        refused := inv.refused }
  | guardCopiedUp relaying copied => exact { inv with }
  | guardCopiedDown relaying copied =>
      have acked := inv.late _ _ relaying
      exact { inv with
        carries := sendHop_carries inv.carries sending copied
        unheard := by
          intro unheard
          rcases inv.unheard unheard with ⟨silent, taken⟩
          exact ⟨silent, (sendHop_frame copied).1.trans taken⟩
        unacked := by
          intro unacked
          rw [acked] at unacked
          cases unacked }
  | guardClosed relaying up down => exact inv.guardEnds _
  | guardFailed relaying unfinished => exact inv.guardEnds _
  | localWrote writing => exact { inv with }
  | localEnded => exact { inv with }
  | @serviceWrote chunk connected writing =>
      exact { inv with
        carries := by
          have carries := inv.carries.produce writing chunk
          rw [List.append_assoc] at carries
          exact carries }
  | serviceEnded => exact { inv with carries := inv.carries.finish }
  | lost =>
      exact { inv with
        carries := inv.carries.lose _
        unheard := by
          intro unheard
          rcases inv.unheard unheard with ⟨silent, taken⟩
          exact ⟨silent, by simpa using taken⟩
        unacked := by
          intro unacked
          rcases inv.unacked unacked with ⟨unheard, wire, held⟩
          exact ⟨unheard, Conveyor.lose_wire _ wire, by simpa using held⟩ }

end Down

/-! ## How far the copies got -/

/-- What each of the four copying hops has noted holds of its line. -/
structure HopsNoted (link : TunnelLink) : Prop where
  clientUp : Sending link.clientUp link.up
  guardUp : Receiving link.guardUp link.up
  guardDown : Sending link.guardDown link.down
  clientDown : Receiving link.clientDown link.down
  clientFresh : link.client.heard = [] →
    link.clientUp = .copying ∧ link.clientDown = .copying
  guardFresh : ∀ stage, link.guard = .serving stage → stage.Early →
    link.guardUp = .copying ∧ link.guardDown = .copying

section Noted

variable {registry : TunnelRegistry PeerId} {peer : PeerId}
    {roles : List String} {service : String} {link next : TunnelLink}
    {event : LinkEvent} {actions : List ServeAction}

theorem hopsNoted_start : HopsNoted {} where
  clientUp := sending_copying _
  guardUp := receiving_copying _
  guardDown := sending_copying _
  clientDown := receiving_copying _
  clientFresh := fun _ => ⟨rfl, rfl⟩
  guardFresh := fun _ _ _ => ⟨rfl, rfl⟩

theorem HopsNoted.guardEnds (inv : HopsNoted link) (outcome : TunnelOutcome) :
    HopsNoted (link.guardEnds outcome) :=
  { inv with
    guardDown := inv.guardDown.abandon
    clientDown := inv.clientDown.abandon
    guardFresh := by rintro stage ⟨⟩ }

theorem HopsNoted.clientEnds (inv : HopsNoted link) {stage : ClientStage}
    (heard : stage.heard = link.client.heard) :
    HopsNoted (link.clientEnds stage) :=
  { inv with
    clientUp := inv.clientUp.abandon
    guardUp := inv.guardUp.abandon
    clientFresh := by
      intro unheard
      exact inv.clientFresh (heard ▸ unheard) }

theorem HopsNoted.readOn (inv : HopsNoted link) {received : List UInt8}
    (reading : link.guard = .serving (.readingHeader received))
    (count : Nat) : HopsNoted (link.readOn count) :=
  { inv with
    clientUp := inv.clientUp.of_frame rfl rfl rfl rfl
    guardUp := by
      have fresh := (inv.guardFresh _ reading trivial).1
      simp only [TunnelLink.readOn, fresh]
      exact receiving_copying _ }

theorem HopsNoted.putAck (inv : HopsNoted link)
    (opened : link.down.closed = false) : HopsNoted link.putAck :=
  { inv with
    guardDown := inv.guardDown.of_frame rfl rfl rfl rfl
    clientDown := by
      simp only [TunnelLink.putAck, inv.clientDown.copying_of_open opened]
      exact receiving_copying _ }

theorem HopsNoted.step (inv : HopsNoted link)
    (move : LinkMove registry peer roles service link event next actions) :
    HopsNoted next := by
  cases move with
  | headerStarted opening opened named sent =>
      have fresh := inv.clientFresh (by rw [opening]; rfl)
      exact { inv with
        clientUp := by
          rw [fresh.1]
          exact sending_copying _
        guardUp := ⟨inv.guardUp.ended, inv.guardUp.finished⟩
        clientFresh := fun _ => fresh }
  | @headerSent count stage writing opened enough after =>
      have fresh := inv.clientFresh (by rw [writing]; rfl)
      exact { inv with
        clientUp := by
          rw [fresh.1]
          exact sending_copying _
        guardUp := by
          rw [inv.guardUp.copying_of_open opened]
          exact receiving_copying _
        clientFresh := fun _ => fresh }
  | ackHeard awaiting arrived =>
      have fresh := inv.clientFresh (by rw [awaiting]; rfl)
      exact { inv with
        guardDown := inv.guardDown.of_frame rfl rfl rfl rfl
        clientDown := by
          rw [fresh.2]
          exact receiving_copying _
        clientFresh := fun _ => fresh }
  | clientRefused early why => exact inv.clientEnds early.heard.symm
  | clientCopiedUp relaying copied =>
      exact { inv with
        clientUp := sendHop_sending inv.clientUp copied
        guardUp := sendHop_receiving inv.guardUp copied
        clientFresh := by
          simp only [relaying]
          rintro ⟨⟩ }
  | clientCopiedDown relaying copied =>
      rcases receiveHop_frame copied with ⟨held, waiting, ended, closed, -⟩
      exact { inv with
        guardDown := inv.guardDown.of_frame held waiting ended closed
        clientDown := receiveHop_receiving inv.clientDown copied
        clientFresh := by
          simp only [relaying]
          rintro ⟨⟩ }
  | clientClosed relaying up down =>
      exact inv.clientEnds (by rw [relaying]; rfl)
  | clientFailed relaying => exact inv.clientEnds (by rw [relaying]; rfl)
  | headerIncomplete reading enough asked incomplete =>
      have fresh := inv.guardFresh _ reading trivial
      exact { inv.readOn reading _ with guardFresh := fun _ _ _ => fresh }
  | headerAdmitted reading enough asked complete admitted =>
      have fresh := inv.guardFresh _ reading trivial
      exact { inv.readOn reading _ with guardFresh := fun _ _ _ => fresh }
  | headerDenied reading enough asked =>
      exact (inv.readOn reading _).guardEnds _
  | guardDenied serving early => exact inv.guardEnds _
  | connected connecting =>
      have fresh := inv.guardFresh _ connecting trivial
      exact { inv with guardFresh := fun _ _ _ => fresh }
  | acknowledged connected opened =>
      exact { inv.putAck opened with
        guardFresh := by
          rintro stage ⟨⟩ early
          exact early.elim }
  | ackLost connected opened => exact (inv.putAck opened).guardEnds _
  | guardCopiedUp relaying copied =>
      rcases receiveHop_frame copied with ⟨held, waiting, ended, closed, -⟩
      exact { inv with
        clientUp := inv.clientUp.of_frame held waiting ended closed
        guardUp := receiveHop_receiving inv.guardUp copied
        guardFresh := by
          intro stage serving early
          rw [relaying] at serving
          cases serving
          exact early.elim }
  | guardCopiedDown relaying copied =>
      exact { inv with
        guardDown := sendHop_sending inv.guardDown copied
        clientDown := sendHop_receiving inv.clientDown copied
        guardFresh := by
          intro stage serving early
          rw [relaying] at serving
          cases serving
          exact early.elim }
  | guardClosed relaying up down => exact inv.guardEnds _
  | guardFailed relaying unfinished => exact inv.guardEnds _
  | localWrote writing =>
      exact { inv with
        clientUp := inv.clientUp.produce writing _
        guardUp := ⟨inv.guardUp.ended, inv.guardUp.finished⟩ }
  | localEnded =>
      exact { inv with
        clientUp := inv.clientUp.finish
        guardUp := ⟨inv.guardUp.ended, inv.guardUp.finished⟩ }
  | serviceWrote connected writing =>
      exact { inv with
        guardDown := inv.guardDown.produce writing _
        clientDown := ⟨inv.clientDown.ended, inv.clientDown.finished⟩ }
  | serviceEnded =>
      exact { inv with
        guardDown := inv.guardDown.finish
        clientDown := ⟨inv.clientDown.ended, inv.clientDown.finished⟩ }
  | lost =>
      exact { inv with
        clientUp := inv.clientUp.lose _
        guardUp := inv.guardUp.lose _
        guardDown := inv.guardDown.lose _
        clientDown := inv.clientDown.lose _ }

end Noted

/-! ## Over whole runs -/

/-- What one step preserves, together. -/
structure Carried (registry : TunnelRegistry PeerId) (peer : PeerId)
    (roles : List String) (service : String) (link : TunnelLink) : Prop where
  up : CarriesUp registry peer roles service link
  down : CarriesDown link
  hops : HopsNoted link

section Runs

variable {registry : TunnelRegistry PeerId} {peer : PeerId}
    {roles : List String} {service : String} {link next : TunnelLink}
    {event : LinkEvent} {actions : List ServeAction}
    {trace : List LinkTransition}

theorem Carried.step (inv : Carried registry peer roles service link)
    (move : LinkMove registry peer roles service link event next actions) :
    Carried registry peer roles service next :=
  ⟨inv.up.step inv.hops.clientUp move, inv.down.step inv.hops.guardDown move,
    inv.hops.step move⟩

theorem carried_of_run
    (run : Run (stepLink registry peer roles service) {} trace link) :
    Carried registry peer roles service link :=
  run.invariant ⟨carriesUp_start, carriesDown_start, hopsNoted_start⟩
    fun _ _ _ _ inv taken => inv.step (stepLink_move taken)

/-- The header was admitted and the service behind it connected to. -/
def AdmittedIn (registry : TunnelRegistry PeerId) (peer : PeerId)
    (roles : List String) (link : TunnelLink) (trace : List LinkTransition)
    (header : TunnelHeader) (exposed : ExposedService) : Prop :=
  link.declared = some header ∧
    admitHeader registry peer roles header = some exposed ∧
      .connect header.service exposed.target ∈
        trace.flatMap Transition.actions

theorem AdmittedIn.later {header : TunnelHeader} {exposed : ExposedService}
    (admitted : AdmittedIn registry peer roles link trace header exposed)
    (declared : next.declared = link.declared) :
    AdmittedIn registry peer roles next
      (trace ++ [⟨link, event, actions, next⟩]) header exposed := by
  rcases admitted with ⟨same, decision, connected⟩
  refine ⟨declared.trans same, decision, ?_⟩
  rw [List.flatMap_append]
  exact List.mem_append_left _ connected

/-- Past its decision, the Guard has connected where the header it admitted
leads. -/
structure Connects (registry : TunnelRegistry PeerId) (peer : PeerId)
    (roles : List String) (trace : List LinkTransition)
    (link : TunnelLink) : Prop where
  serving : ∀ stage header exposed, link.guard = .serving stage →
    stage.admitted? = some (header, exposed) →
      AdmittedIn registry peer roles link trace header exposed
  reached : link.acked = true ∨ link.service.received ≠ [] →
    ∃ header exposed,
      AdmittedIn registry peer roles link trace header exposed
  /-- the log holds no other connection -/
  logged : ∀ action ∈ trace.flatMap Transition.actions, ∃ header exposed,
    AdmittedIn registry peer roles link trace header exposed ∧
      (action = .connect header.service exposed.target ∨
        action = .writeAck header.service)

theorem connects_start : Connects registry peer roles [] {} where
  serving := by rintro stage header exposed ⟨⟩ ⟨⟩
  reached := by simp
  logged := by simp

/-- A step that decides nothing keeps what was decided. -/
theorem Connects.later (inv : Connects registry peer roles trace link)
    (declared : next.declared = link.declared)
    (serving : ∀ stage header exposed, next.guard = .serving stage →
      stage.admitted? = some (header, exposed) →
        ∃ earlier, link.guard = .serving earlier ∧
          earlier.admitted? = some (header, exposed))
    (reached : next.acked = true ∨ next.service.received ≠ [] →
      (link.acked = true ∨ link.service.received ≠ []) ∨
        ∃ stage header exposed, link.guard = .serving stage ∧
          stage.admitted? = some (header, exposed))
    (logged : ∀ action ∈ actions, ∃ stage header exposed,
      link.guard = .serving stage ∧
        stage.admitted? = some (header, exposed) ∧
          action = .writeAck header.service) :
    Connects registry peer roles
      (trace ++ [⟨link, event, actions, next⟩]) next where
  serving := by
    intro stage header exposed now admitted
    rcases serving stage header exposed now admitted with
      ⟨earlier, before, same⟩
    exact (inv.serving earlier header exposed before same).later declared
  reached := by
    intro now
    rcases reached now with before | ⟨stage, header, exposed, before, same⟩
    · rcases inv.reached before with ⟨header, exposed, admitted⟩
      exact ⟨header, exposed, admitted.later declared⟩
    · exact ⟨header, exposed,
        (inv.serving stage header exposed before same).later declared⟩
  logged := by
    intro action member
    rw [List.flatMap_append, List.flatMap_singleton] at member
    rcases List.mem_append.mp member with old | new
    · rcases inv.logged action old with ⟨header, exposed, admitted, same⟩
      exact ⟨header, exposed, admitted.later declared, same⟩
    · rcases logged action new with ⟨stage, header, exposed, before, same, ack⟩
      exact ⟨header, exposed,
        (inv.serving stage header exposed before same).later declared,
        Or.inr ack⟩

theorem Connects.step
    (carried : Carried registry peer roles service link)
    (inv : Connects registry peer roles trace link)
    (move : LinkMove registry peer roles service link event next actions) :
    Connects registry peer roles
      (trace ++ [⟨link, event, actions, next⟩]) next := by
  cases move with
  | headerStarted opening opened named sent =>
      have undeclared := carried.up.opening opening
      have none : ∀ header exposed,
          ¬ AdmittedIn registry peer roles link trace header exposed := by
        intro header exposed admitted
        have same := admitted.1
        rw [undeclared] at same
        cases same
      refine ⟨?_, ?_, ?_⟩
      · intro stage header exposed serving admitted
        exact (none header exposed
          (inv.serving stage header exposed serving admitted)).elim
      · intro reached
        rcases inv.reached reached with ⟨header, exposed, admitted⟩
        exact (none header exposed admitted).elim
      · intro action member
        rw [List.flatMap_append, List.flatMap_singleton] at member
        rcases List.mem_append.mp member with old | new
        · rcases inv.logged action old with ⟨header, exposed, admitted, -⟩
          exact (none header exposed admitted).elim
        · cases new
  | @headerAdmitted received rest count header exposed reading enough asked
      complete admitted =>
      rcases carried.up.read reading asked with ⟨-, -, -, decides⟩
      have now : AdmittedIn registry peer roles
          { link.readOn count with
            guard := .serving (.connecting header exposed) }
          (trace ++ [⟨link, .guard (.headerRead count),
            [.connect header.service exposed.target],
            { link.readOn count with
              guard := .serving (.connecting header exposed) }⟩])
          header exposed := by
        refine ⟨(decides _ _ complete).1, admitted, ?_⟩
        rw [List.flatMap_append]
        exact List.mem_append_right _ (by simp)
      refine ⟨?_, ?_, ?_⟩
      · rintro stage other target ⟨⟩ ⟨⟩
        exact now
      · intro reached
        rcases inv.reached reached with ⟨other, target, before⟩
        exact ⟨other, target, before.later rfl⟩
      · intro action member
        rw [List.flatMap_append, List.flatMap_singleton] at member
        rcases List.mem_append.mp member with old | new
        · rcases inv.logged action old with ⟨other, target, before, same⟩
          exact ⟨other, target, before.later rfl, same⟩
        · exact ⟨header, exposed, now, Or.inl (List.mem_singleton.mp new)⟩
  | connected connecting =>
      refine inv.later rfl ?_ Or.inl ?_
      · rintro stage header exposed ⟨⟩ ⟨⟩
        exact ⟨_, connecting, rfl⟩
      · intro action member
        rw [List.mem_singleton] at member
        exact ⟨_, _, _, connecting, rfl, member⟩
  | acknowledged connected opened =>
      refine inv.later rfl ?_ (fun _ => Or.inr ⟨_, _, _, connected, rfl⟩)
        (by simp)
      rintro stage header exposed ⟨⟩ ⟨⟩
      exact ⟨_, connected, rfl⟩
  | ackLost connected opened =>
      refine inv.later rfl ?_ (fun _ => Or.inr ⟨_, _, _, connected, rfl⟩)
        (by simp)
      rintro stage header exposed ⟨⟩
  | headerIncomplete reading enough asked incomplete =>
      refine inv.later rfl ?_ Or.inl (by simp)
      rintro stage header exposed ⟨⟩ ⟨⟩
  | headerDenied reading enough asked =>
      refine inv.later rfl ?_ Or.inl (by simp)
      rintro stage header exposed ⟨⟩
  | guardDenied serving early =>
      refine inv.later rfl ?_ Or.inl (by simp)
      rintro stage header exposed ⟨⟩
  | guardCopiedUp relaying copied =>
      exact inv.later rfl
        (fun stage _ _ serving admitted => ⟨stage, serving, admitted⟩)
        (fun _ => Or.inr ⟨_, _, _, relaying, rfl⟩) (by simp)
  | guardClosed relaying up down =>
      refine inv.later rfl ?_ Or.inl (by simp)
      rintro stage header exposed ⟨⟩
  | guardFailed relaying unfinished =>
      refine inv.later rfl ?_ Or.inl (by simp)
      rintro stage header exposed ⟨⟩
  | _ =>
      exact inv.later rfl
        (fun stage _ _ serving admitted => ⟨stage, serving, admitted⟩)
        Or.inl (by simp)

theorem connects_of_run
    (run : Run (stepLink registry peer roles service) {} trace link) :
    Connects registry peer roles trace link :=
  run.history connects_start fun _ _ _ _ _ prior inv taken =>
    inv.step (carried_of_run prior) (stepLink_move taken)

end Runs

/-! ## The results -/

/--
Neither program ever receives anything but the beginning of what the other one
wrote.
-/
theorem tunnel_transparent {registry : TunnelRegistry PeerId} {peer : PeerId}
    {roles : List String} {service : String}
    {trace : List LinkTransition} {link : TunnelLink}
    (run : Run (stepLink registry peer roles service) {} trace link) :
    link.service.received <+: link.localProgram.written ∧
      link.localProgram.received <+: link.service.written := by
  rcases carried_of_run run with ⟨up, down, -⟩
  constructor
  · rcases up.quiet with silent | read
    · rw [silent]
      exact List.nil_prefix
    · have arrived := up.carries.delivered_prefix
      rw [read] at arrived
      exact (List.prefix_append_right_inj _).mp arrived
  · by_cases unheard : link.client.heard = []
    · rw [(down.unheard unheard).1]
      exact List.nil_prefix
    · have heard : link.client.heard = [tunnelAck] := by
        cases stage : link.client with
        | relaying => rfl
        | relayed counts => rfl
        | _ =>
            rw [stage] at unheard
            exact (unheard rfl).elim
      have acked : link.acked = true := by
        cases acked : link.acked with
        | true => rfl
        | false => exact (unheard (down.unacked acked).1).elim
      have arrived := down.carries.delivered_prefix
      rw [heard, announced, if_pos acked] at arrived
      exact (List.prefix_append_right_inj _).mp arrived

section SmallExchange

open SmallGuard SmallLink

/-- Both programs received all that was exchanged. -/
def exchanged (link : TunnelLink) : Bool :=
  link.service.received = [1, 2, 3] && link.localProgram.received = [8, 9]

theorem tunnel_transparent_small :
    ∃ (trace : List LinkTransition) (link : TunnelLink),
      Run SmallLink.step {} trace link ∧
      link.service.received = [1, 2, 3] ∧
      [1, 2, 3] <+: link.localProgram.written ∧
      [8, 9] <+: link.service.written := by
  have computed : (execute SmallLink.step {} (admission ++ exchanges)).any
      (fun result => exchanged result.2) = true := by
    decide +kernel
  rcases exists_run_of_any computed with ⟨trace, link, run, -, observed⟩
  simp only [exchanged, Bool.and_eq_true, decide_eq_true_eq] at observed
  rcases tunnel_transparent run with ⟨up, down⟩
  rw [observed.1] at up
  rw [observed.2] at down
  exact ⟨trace, link, run, observed.1, up, down⟩

end SmallExchange

/-- `open` returned a stream. -/
def ClientStage.Opened : ClientStage → Prop
  | .relaying => True
  | .relayed _ => True
  | _ => False

theorem ClientStage.heard_eq_nil_iff {stage : ClientStage} :
    stage.heard = [] ↔ ¬ stage.Opened := by
  cases stage <;> simp [ClientStage.heard, ClientStage.Opened]

/--
A Client whose `open` succeeded agrees with the Guard: the Guard admitted the
header this Client sent, which names the requested service, and connected where
that service is exposed.  Nothing else is ever connected to or acknowledged.  A
Client that no header would help is told nothing, and no Client ever sees an
unexpected acknowledgement.
-/
theorem open_agrees_with_guard {registry : TunnelRegistry PeerId}
    {peer : PeerId} {roles : List String} {service : String}
    {trace : List LinkTransition} {link : TunnelLink}
    (run : Run (stepLink registry peer roles service) {} trace link) :
    (link.client.Opened → ∃ header exposed,
      AdmittedIn registry peer roles link trace header exposed ∧
        header.service = service) ∧
    (∀ action ∈ trace.flatMap Transition.actions, ∃ header exposed,
      AdmittedIn registry peer roles link trace header exposed ∧
        header.service = service ∧
          (action = .connect service exposed.target ∨
            action = .writeAck service)) ∧
    ((∀ sha256, admitHeader registry peer roles ⟨service, sha256⟩ = none) →
      ¬ link.client.Opened ∧ link.localProgram.received = [] ∧
        link.service.received = [] ∧
          trace.flatMap Transition.actions = []) ∧
    ∀ message, link.client ≠ .refused (.protocol message) := by
  have connects := connects_of_run run
  rcases carried_of_run run with ⟨up, down, -⟩
  have named : ∀ header exposed,
      AdmittedIn registry peer roles link trace header exposed →
        header.service = service :=
    fun header exposed admitted => (up.declared header admitted.1).1
  have opened : link.client.Opened → ∃ header exposed,
      AdmittedIn registry peer roles link trace header exposed := by
    intro opened
    apply connects.reached
    cases acked : link.acked with
    | true => exact Or.inl rfl
    | false =>
        have unheard := (down.unacked acked).1
        exact absurd opened (ClientStage.heard_eq_nil_iff.mp unheard)
  refine ⟨?_, ?_, ?_, ?_⟩
  · intro now
    rcases opened now with ⟨header, exposed, admitted⟩
    exact ⟨header, exposed, admitted, named header exposed admitted⟩
  · intro action member
    rcases connects.logged action member with ⟨header, exposed, admitted, same⟩
    have name := named header exposed admitted
    rw [name] at same
    exact ⟨header, exposed, admitted, name, same⟩
  · intro refused
    have nobody : ∀ header exposed,
        ¬ AdmittedIn registry peer roles link trace header exposed := by
      intro header exposed admitted
      have decision := admitted.2.1
      have same : header = ⟨service, header.binarySha256⟩ := by
        rw [← named header exposed admitted]
      rw [same, refused] at decision
      cases decision
    have closed : ¬ link.client.Opened := by
      intro now
      rcases opened now with ⟨header, exposed, admitted⟩
      exact nobody header exposed admitted
    refine ⟨closed,
      (down.unheard (ClientStage.heard_eq_nil_iff.mpr closed)).1, ?_, ?_⟩
    · by_contra received
      rcases connects.reached (Or.inr received) with
        ⟨header, exposed, admitted⟩
      exact nobody header exposed admitted
    · apply List.eq_nil_iff_forall_not_mem.mpr
      intro action member
      rcases connects.logged action member with ⟨header, exposed, admitted, -⟩
      exact nobody header exposed admitted
  · intro message refused
    exact down.refused _ refused message rfl

section SmallOpening

open SmallGuard SmallLink

/-- The client copies. -/
def isRelaying (link : TunnelLink) : Bool :=
  link.client = .relaying

theorem open_agrees_with_guard_small :
    ∃ (trace : List LinkTransition) (link : TunnelLink),
      Run SmallLink.step {} trace link ∧ link.client = .relaying ∧
      ∃ header exposed,
        AdmittedIn registry peer ["reader"] link trace header exposed ∧
        header.service = "db" := by
  have computed : (execute SmallLink.step {} admission).any
      (fun result => isRelaying result.2) = true := by
    decide +kernel
  rcases exists_run_of_any computed with ⟨trace, link, run, -, observed⟩
  have relaying := of_decide_eq_true observed
  refine ⟨trace, link, run, relaying, (open_agrees_with_guard run).1 ?_⟩
  rw [relaying]
  trivial

end SmallOpening

end NuxAuth.Core
