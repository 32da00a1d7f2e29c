import NuxAuth.Lib.WireStream
import NuxAuth.Core.TunnelFrame
import NuxAuth.Core.TunnelSilence

/-!
# A tunnel from end to end

A Client relays one local connection through one stream: `relay_local` opens
the stream, sends the opening frame, waits for one byte and copies both ways.
The Guard's serve task reads the frame off the same stream, decides, connects,
acknowledges and copies both ways.  Here both run against each other, with the
local program at one end and the exposed service at the other.

A stream keeps the order of its bytes and delivers them in pieces of any size;
a lost connection, or an end that is dropped, may cost the bytes under way and
nothing else.  `copy_bidirectional` is the runtime's: in each direction it
writes what it read, in order, shuts the writer down once the reader ended and
everything is written, returns the numbers of bytes once both directions are
shut down, and returns an error as soon as one of its reads or writes fails.
-/

namespace NuxAuth.Core

open NuxAuth.Lib.Bincode NuxAuth.Lib.RecordedRun NuxAuth.Lib.WireStream

/-! ## The parties -/

/-- The errors of `open`. -/
inductive OpenError where
  | io
  | tunnel (message : String)
  | accessDenied
  | protocol (message : String)
deriving DecidableEq

/-- The caller is told the same. -/
def WriteHeaderError.toOpenError : WriteHeaderError → OpenError
  | .io => .io
  | .tunnel message => .tunnel message

/-- Where `relay_local` is, for one local connection. -/
inductive ClientStage where
  | opening
  | writingHeader
  | awaitingAck
  | relaying
  | refused (error : OpenError)
  /-- what the copy returned: the bytes sent and received, or an error -/
  | relayed (counts : Option (Nat × Nat))
deriving DecidableEq

/-- A program at one end: everything it wrote and received so far. -/
structure Program where
  written : List UInt8 := []
  received : List UInt8 := []

/-- Both tasks, the stream between them and the programs at its ends. -/
structure TunnelLink where
  client : ClientStage := .opening
  /-- the header the Client sends -/
  declared : Option TunnelHeader := none
  guard : ServePhase := .serving (.readingHeader [])
  /-- what `read_header` has read off the stream -/
  headerRead : List UInt8 := []
  /-- the acknowledgement was put on the stream -/
  acked : Bool := false
  clientUp : CopyPhase := .copying
  clientDown : CopyPhase := .copying
  guardUp : CopyPhase := .copying
  guardDown : CopyPhase := .copying
  /-- bytes the Client's copy wrote to the stream -/
  sent : Nat := 0
  /-- bytes the Guard's copy wrote to the stream -/
  toPeer : Nat := 0
  /-- from the local program to the service -/
  up : Conveyor UInt8 := {}
  /-- from the service to the local program -/
  down : Conveyor UInt8 := {}
  localProgram : Program := {}
  service : Program := {}

/-! ## What can happen -/

/-- What the client side of a tunnel waits for. -/
inductive ClientEvent where
  /-- with the fingerprint of the running binary, where it could be read -/
  | streamOpened (fingerprint : Option Sha256)
  | openFailed (detail : String)
  | headerWritten (count : Nat)
  | headerWriteFailed
  | ackRead
  | ackReadFailed
  | copyUp (op : CopyOp)
  | copyDown (op : CopyOp)
  | copyEnded
  | copyFailed

/-- What the side of the Guard waits for. -/
inductive ServeSideEvent where
  | headerRead (count : Nat)
  | headerEnded
  | headerReadFailed
  | headerTimedOut
  | connected
  | connectFailed
  | acknowledged
  /-- the byte may have left before the failure -/
  | acknowledgeFailed (written : Bool)
  | copyUp (op : CopyOp)
  | copyDown (op : CopyOp)
  | copyEnded
  | copyFailed

/-- What can happen to a tunnel, at its two sides and its two local ends. -/
inductive LinkEvent where
  | client (event : ClientEvent)
  | guard (event : ServeSideEvent)
  | localWrites (chunk : List UInt8)
  | localEnds
  | serviceWrites (chunk : List UInt8)
  | serviceEnds
  /-- only the first bytes under way each way still arrive -/
  | connectionLost (up down : Nat)

/-- One recorded step of a tunnel. -/
abbrev LinkTransition := Transition TunnelLink LinkEvent ServeAction

namespace TunnelLink

/-! ## The Client -/

/-- `{:#04x}`. -/
def hexByteText (byte : UInt8) : String :=
  let digits := "0123456789abcdef".toList
  "0x" ++ String.ofList
    [digits.getD (byte.toNat / 16) '0', digits.getD (byte.toNat % 16) '0']

/-- The task ends: the local connection and its half of the stream are
dropped. -/
def clientEnds (link : TunnelLink) (stage : ClientStage) : TunnelLink :=
  { link with client := stage, up := link.up.abandon }

/-- The frame is handed to the stream only if the header is short enough. -/
def startHeader (link : TunnelLink) (header : TunnelHeader) : TunnelLink :=
  match writeHeader header [] with
  | (_, .error error) => link.clientEnds (.refused error.toOpenError)
  | (frame, .ok ()) =>
      { link with
        client := .writingHeader
        declared := some header
        up := { link.up with held := frame } }

/-- `open_tunnel` and the relay behind it, one await at a time. -/
def clientStep (service : String) (link : TunnelLink) :
    ClientEvent → Option TunnelLink
  | .streamOpened fingerprint =>
      if link.client = .opening ∧ link.up.closed = false then
        match fingerprint with
        | none => some (link.clientEnds (.refused .io))
        | some sha256 => some (link.startHeader ⟨service, sha256⟩)
      else
        none
  | .openFailed detail =>
      if link.client = .opening then
        some (link.clientEnds (.refused (.tunnel detail)))
      else
        none
  | .headerWritten count =>
      if link.client = .writingHeader ∧ link.up.closed = false ∧
          0 < count ∧ count ≤ link.up.held.length then
        some { link with
          client :=
            if count = link.up.held.length then .awaitingAck
            else .writingHeader
          up := link.up.send count }
      else
        none
  | .headerWriteFailed =>
      if link.client = .writingHeader then
        some (link.clientEnds (.refused .io))
      else
        none
  | .ackRead =>
      if link.client = .awaitingAck then
        match link.down.wire with
        | [] =>
            if link.down.closed then
              some (link.clientEnds (.refused .accessDenied))
            else
              none
        | byte :: _ =>
            if byte = tunnelAck then
              some { link with
                client := .relaying
                down := (link.down.receive 1).release 1 }
            else
              some (link.clientEnds (.refused (.protocol
                ("acquittement de tunnel inattendu: " ++
                  hexByteText byte))))
      else
        none
  | .ackReadFailed =>
      if link.client = .awaitingAck then
        some (link.clientEnds (.refused .accessDenied))
      else
        none
  | .copyUp op =>
      if link.client = .relaying then
        (sendHop link.clientUp link.up op).map fun (phase, line) =>
          { link with
            clientUp := phase
            up := line
            sent := link.sent + op.written }
      else
        none
  | .copyDown op =>
      if link.client = .relaying then
        (receiveHop link.clientDown link.down op).map fun (phase, line, chunk) =>
          { link with
            clientDown := phase
            down := line
            localProgram := { link.localProgram with
              received := link.localProgram.received ++ chunk } }
      else
        none
  | .copyEnded =>
      if link.client = .relaying ∧ link.clientUp = .finished ∧
          link.clientDown = .finished then
        some (link.clientEnds (.relayed
          (some (link.sent, link.localProgram.received.length))))
      else
        none
  | .copyFailed =>
      if link.client = .relaying ∧
          ¬ (link.clientUp = .finished ∧ link.clientDown = .finished) then
        some (link.clientEnds (.relayed none))
      else
        none

/-! ## The Guard -/

/-- The bytes that `read_header` asks the stream for. -/
def headerDemand : List UInt8 → Nat
  | high :: low :: body => high.toNat * 256 + low.toNat - body.length
  | received => 2 - received.length

section Guard

variable {PeerId : Type} [DecidableEq PeerId]

/-- What the event makes of the serve task; a task that ended drops its half of
the stream. -/
def resumeServe (registry : TunnelRegistry PeerId) (peer : PeerId)
    (roles : List String) (link : TunnelLink) (stage : ServeStage)
    (event : ServeEvent) : Option (TunnelLink × List ServeAction) :=
  match serveIo registry peer roles stage event with
  | none => none
  | some (.continues next actions) =>
      some ({ link with guard := .serving next }, actions)
  | some (.ends outcome) =>
      some ({ link with
        guard := .returned outcome
        down := link.down.abandon }, [])

/-- The acknowledgement enters the stream. -/
def putAck (link : TunnelLink) : TunnelLink :=
  { link with
    acked := true
    down := { link.down with wire := link.down.wire ++ [tunnelAck] } }

/-- `serve_stream`, one await at a time. -/
def guardStep (registry : TunnelRegistry PeerId) (peer : PeerId)
    (roles : List String) (link : TunnelLink) :
    ServePhase → ServeSideEvent → Option (TunnelLink × List ServeAction)
  | .serving (.readingHeader received), .headerRead count =>
      if 0 < count ∧ count ≤ link.up.wire.length ∧
          count ≤ headerDemand received then
        let chunk := link.up.wire.take count
        { link with
          headerRead := link.headerRead ++ chunk
          up := { link.up with wire := link.up.wire.drop count } }
          |>.resumeServe registry peer roles (.readingHeader received)
            (.received chunk)
      else
        none
  | .serving (.readingHeader received), .headerEnded =>
      if link.up.wire = [] ∧ link.up.closed then
        link.resumeServe registry peer roles (.readingHeader received)
          .headerUnreadable
      else
        none
  | .serving (.readingHeader received), .headerReadFailed =>
      link.resumeServe registry peer roles (.readingHeader received)
        .headerUnreadable
  | .serving (.readingHeader received), .headerTimedOut =>
      link.resumeServe registry peer roles (.readingHeader received)
        .headerTimedOut
  | .serving (.connecting header service), .connected =>
      link.resumeServe registry peer roles (.connecting header service)
        .connected
  | .serving (.connecting header service), .connectFailed =>
      link.resumeServe registry peer roles (.connecting header service)
        .connectFailed
  | .serving (.acknowledging header service), .acknowledged =>
      if link.down.closed then
        none
      else
        link.putAck.resumeServe registry peer roles
          (.acknowledging header service) .acknowledged
  | .serving (.acknowledging header service), .acknowledgeFailed written =>
      let left := if written ∧ link.down.closed = false then link.putAck
        else link
      left.resumeServe registry peer roles (.acknowledging header service)
        .acknowledgeFailed
  | .serving (.relaying _ _), .copyUp op =>
      (receiveHop link.guardUp link.up op).map fun (phase, line, chunk) =>
        ({ link with
          guardUp := phase
          up := line
          service := { link.service with
            received := link.service.received ++ chunk } }, [])
  | .serving (.relaying _ _), .copyDown op =>
      (sendHop link.guardDown link.down op).map fun (phase, line) =>
        ({ link with
          guardDown := phase
          down := line
          toPeer := link.toPeer + op.written }, [])
  | .serving (.relaying header service), .copyEnded =>
      if link.guardUp = .finished ∧ link.guardDown = .finished then
        link.resumeServe registry peer roles (.relaying header service)
          (.relayClosed (UInt64.ofNat link.service.received.length)
            (UInt64.ofNat link.toPeer))
      else
        none
  | .serving (.relaying header service), .copyFailed =>
      if link.guardUp = .finished ∧ link.guardDown = .finished then
        none
      else
        link.resumeServe registry peer roles (.relaying header service)
          .relayInterrupted
  | _, _ => none

end Guard

/-! ## Everything around them -/

/-- The service talks only on a connection that the Guard opened. -/
def Connected : ServePhase → Bool
  | .serving (.acknowledging _ _) => true
  | .serving (.relaying _ _) => true
  | _ => false

end TunnelLink

variable {PeerId : Type} [DecidableEq PeerId]

/-- One step of either task, of either program or of the network. -/
def stepLink (registry : TunnelRegistry PeerId) (peer : PeerId)
    (roles : List String) (service : String) :
    Step TunnelLink LinkEvent ServeAction :=
  fun link event =>
    match event with
    | .client event => (link.clientStep service event).map fun next => (next, [])
    | .guard event => link.guardStep registry peer roles link.guard event
    | .localWrites chunk =>
        if link.up.ended then
          none
        else
          some ({ link with
            up := link.up.produce chunk
            localProgram := { link.localProgram with
              written := link.localProgram.written ++ chunk } }, [])
    | .localEnds => some ({ link with up := link.up.finish }, [])
    | .serviceWrites chunk =>
        if TunnelLink.Connected link.guard ∧ link.down.ended = false then
          some ({ link with
            down := link.down.produce chunk
            service := { link.service with
              written := link.service.written ++ chunk } }, [])
        else
          none
    | .serviceEnds =>
        if TunnelLink.Connected link.guard then
          some ({ link with down := link.down.finish }, [])
        else
          none
    | .connectionLost up down =>
        some ({ link with
          up := link.up.lose up
          down := link.down.lose down }, [])

/-! ## What one step can do -/

/-- The acknowledgement was not heard yet. -/
def ClientStage.Early : ClientStage → Prop
  | .opening => True
  | .writingHeader => True
  | .awaitingAck => True
  | _ => False

/-- The decision on the header is still open, or the service not yet told. -/
def ServeStage.Early : ServeStage → Prop
  | .relaying _ _ => False
  | _ => True

namespace TunnelLink

/-- The serve task ends, and drops its half of the stream. -/
def guardEnds (link : TunnelLink) (outcome : TunnelOutcome) : TunnelLink :=
  { link with guard := .returned outcome, down := link.down.abandon }

/-- `read_header` takes the next bytes off the stream. -/
def readOn (link : TunnelLink) (count : Nat) : TunnelLink :=
  { link with
    headerRead := link.headerRead ++ link.up.wire.take count
    up := { link.up with wire := link.up.wire.drop count } }

end TunnelLink

open TunnelLink

/-- Everything a step can do, with what made it possible. -/
inductive LinkMove (registry : TunnelRegistry PeerId) (peer : PeerId)
    (roles : List String) (service : String) (link : TunnelLink) :
    LinkEvent → TunnelLink → List ServeAction → Prop where
  | headerStarted {event : ClientEvent} {header : TunnelHeader}
      {frame : List UInt8} (opening : link.client = .opening)
      (opened : link.up.closed = false) (named : header.service = service)
      (sent : writeHeader header [] = (frame, .ok ())) :
      LinkMove registry peer roles service link (.client event)
        { link with
          client := .writingHeader
          declared := some header
          up := { link.up with held := frame } } []
  | headerSent {count : Nat} {stage : ClientStage}
      (writing : link.client = .writingHeader)
      (opened : link.up.closed = false) (enough : count ≤ link.up.held.length)
      (after : stage = .writingHeader ∨
        stage = .awaitingAck ∧ count = link.up.held.length) :
      LinkMove registry peer roles service link (.client (.headerWritten count))
        { link with client := stage, up := link.up.send count } []
  | ackHeard {event : ClientEvent} {rest : List UInt8}
      (awaiting : link.client = .awaitingAck)
      (arrived : link.down.wire = tunnelAck :: rest) :
      LinkMove registry peer roles service link (.client event)
        { link with
          client := .relaying
          down := (link.down.receive 1).release 1 } []
  | clientRefused {event : ClientEvent} {error : OpenError}
      (early : link.client.Early)
      (why : (∀ message, error ≠ .protocol message) ∨
        ∃ byte rest, link.down.wire = byte :: rest ∧ byte ≠ tunnelAck ∧
          link.client = .awaitingAck) :
      LinkMove registry peer roles service link (.client event)
        (link.clientEnds (.refused error)) []
  | clientCopiedUp {op : CopyOp} {phase : CopyPhase}
      {line : Conveyor UInt8} (relaying : link.client = .relaying)
      (copied : sendHop link.clientUp link.up op = some (phase, line)) :
      LinkMove registry peer roles service link (.client (.copyUp op))
        { link with
          clientUp := phase
          up := line
          sent := link.sent + op.written } []
  | clientCopiedDown {op : CopyOp} {phase : CopyPhase}
      {line : Conveyor UInt8} {chunk : List UInt8}
      (relaying : link.client = .relaying)
      (copied : receiveHop link.clientDown link.down op =
        some (phase, line, chunk)) :
      LinkMove registry peer roles service link (.client (.copyDown op))
        { link with
          clientDown := phase
          down := line
          localProgram := { link.localProgram with
            received := link.localProgram.received ++ chunk } } []
  | clientClosed (relaying : link.client = .relaying)
      (up : link.clientUp = .finished) (down : link.clientDown = .finished) :
      LinkMove registry peer roles service link (.client .copyEnded)
        (link.clientEnds (.relayed
          (some (link.sent, link.localProgram.received.length)))) []
  | clientFailed (relaying : link.client = .relaying) :
      LinkMove registry peer roles service link (.client .copyFailed)
        (link.clientEnds (.relayed none)) []
  | headerIncomplete {received : List UInt8} {count : Nat}
      (reading : link.guard = .serving (.readingHeader received))
      (enough : count ≤ link.up.wire.length)
      (asked : count ≤ headerDemand received)
      (incomplete : readHeader (received ++ link.up.wire.take count) =
        .incomplete) :
      LinkMove registry peer roles service link (.guard (.headerRead count))
        { link.readOn count with
          guard := .serving
            (.readingHeader (received ++ link.up.wire.take count)) } []
  | headerAdmitted {received rest : List UInt8} {count : Nat}
      {header : TunnelHeader} {exposed : ExposedService}
      (reading : link.guard = .serving (.readingHeader received))
      (enough : count ≤ link.up.wire.length)
      (asked : count ≤ headerDemand received)
      (complete : readHeader (received ++ link.up.wire.take count) =
        .complete header rest)
      (admitted : admitHeader registry peer roles header = some exposed) :
      LinkMove registry peer roles service link (.guard (.headerRead count))
        { link.readOn count with
          guard := .serving (.connecting header exposed) }
        [.connect header.service exposed.target]
  | headerDenied {received : List UInt8} {count : Nat}
      (reading : link.guard = .serving (.readingHeader received))
      (enough : count ≤ link.up.wire.length)
      (asked : count ≤ headerDemand received) :
      LinkMove registry peer roles service link (.guard (.headerRead count))
        ((link.readOn count).guardEnds .denied) []
  | guardDenied {event : ServeSideEvent} {stage : ServeStage}
      (serving : link.guard = .serving stage) (early : stage.Early) :
      LinkMove registry peer roles service link (.guard event)
        (link.guardEnds .denied) []
  | connected {header : TunnelHeader} {exposed : ExposedService}
      (connecting : link.guard = .serving (.connecting header exposed)) :
      LinkMove registry peer roles service link (.guard .connected)
        { link with guard := .serving (.acknowledging header exposed) }
        [.writeAck header.service]
  | acknowledged {header : TunnelHeader} {exposed : ExposedService}
      (connected : link.guard = .serving (.acknowledging header exposed))
      (opened : link.down.closed = false) :
      LinkMove registry peer roles service link (.guard .acknowledged)
        { link.putAck with guard := .serving (.relaying header exposed) } []
  | ackLost {event : ServeSideEvent} {header : TunnelHeader}
      {exposed : ExposedService}
      (connected : link.guard = .serving (.acknowledging header exposed))
      (opened : link.down.closed = false) :
      LinkMove registry peer roles service link (.guard event)
        (link.putAck.guardEnds .denied) []
  | guardCopiedUp {op : CopyOp} {phase : CopyPhase} {line : Conveyor UInt8}
      {chunk : List UInt8} {header : TunnelHeader}
      {exposed : ExposedService}
      (relaying : link.guard = .serving (.relaying header exposed))
      (copied : receiveHop link.guardUp link.up op =
        some (phase, line, chunk)) :
      LinkMove registry peer roles service link (.guard (.copyUp op))
        { link with
          guardUp := phase
          up := line
          service := { link.service with
            received := link.service.received ++ chunk } } []
  | guardCopiedDown {op : CopyOp} {phase : CopyPhase}
      {line : Conveyor UInt8} {header : TunnelHeader}
      {exposed : ExposedService}
      (relaying : link.guard = .serving (.relaying header exposed))
      (copied : sendHop link.guardDown link.down op = some (phase, line)) :
      LinkMove registry peer roles service link (.guard (.copyDown op))
        { link with
          guardDown := phase
          down := line
          toPeer := link.toPeer + op.written } []
  | guardClosed {header : TunnelHeader} {exposed : ExposedService}
      (relaying : link.guard = .serving (.relaying header exposed))
      (up : link.guardUp = .finished) (down : link.guardDown = .finished) :
      LinkMove registry peer roles service link (.guard .copyEnded)
        (link.guardEnds (.served (UInt64.ofNat link.service.received.length)
          (UInt64.ofNat link.toPeer))) []
  | guardFailed {header : TunnelHeader} {exposed : ExposedService}
      (relaying : link.guard = .serving (.relaying header exposed))
      (unfinished : ¬ (link.guardUp = .finished ∧
        link.guardDown = .finished)) :
      LinkMove registry peer roles service link (.guard .copyFailed)
        (link.guardEnds (.served 0 0)) []
  | localWrote {chunk : List UInt8} (writing : link.up.ended = false) :
      LinkMove registry peer roles service link (.localWrites chunk)
        { link with
          up := link.up.produce chunk
          localProgram := { link.localProgram with
            written := link.localProgram.written ++ chunk } } []
  | localEnded :
      LinkMove registry peer roles service link .localEnds
        { link with up := link.up.finish } []
  | serviceWrote {chunk : List UInt8} (connected : Connected link.guard = true)
      (writing : link.down.ended = false) :
      LinkMove registry peer roles service link (.serviceWrites chunk)
        { link with
          down := link.down.produce chunk
          service := { link.service with
            written := link.service.written ++ chunk } } []
  | serviceEnded :
      LinkMove registry peer roles service link .serviceEnds
        { link with down := link.down.finish } []
  | lost {up down : Nat} :
      LinkMove registry peer roles service link (.connectionLost up down)
        { link with up := link.up.lose up, down := link.down.lose down } []

section Inversion

variable {registry : TunnelRegistry PeerId} {peer : PeerId}
    {roles : List String} {service : String} {link next : TunnelLink}
    {actions : List ServeAction}

variable (registry peer roles) in
theorem clientStep_move {event : ClientEvent}
    (taken : link.clientStep service event = some next) :
    LinkMove registry peer roles service link (.client event) next [] := by
  cases event with
  | streamOpened fingerprint =>
      rcases Option.ite_none_right_eq_some.mp taken with
        ⟨⟨opening, opened⟩, same⟩
      have early : link.client.Early := by
        rw [opening]
        trivial
      cases fingerprint with
      | none =>
          cases same
          exact .clientRefused early (Or.inl fun message => by rintro ⟨⟩)
      | some sha256 =>
          simp only [startHeader] at same
          split at same
          · rename_i error refused
            cases same
            refine .clientRefused early (Or.inl ?_)
            intro message
            cases error <;> rintro ⟨⟩
          · rename_i frame sent
            cases same
            exact .headerStarted opening opened rfl sent
  | openFailed detail =>
      rcases Option.ite_none_right_eq_some.mp taken with ⟨opening, same⟩
      cases same
      refine .clientRefused ?_ (Or.inl fun message => by rintro ⟨⟩)
      rw [opening]
      trivial
  | headerWritten count =>
      rcases Option.ite_none_right_eq_some.mp taken with
        ⟨⟨writing, opened, -, enough⟩, same⟩
      cases same
      refine .headerSent writing opened enough ?_
      split
      · rename_i all
        exact Or.inr ⟨rfl, all⟩
      · exact Or.inl rfl
  | headerWriteFailed =>
      rcases Option.ite_none_right_eq_some.mp taken with ⟨writing, same⟩
      cases same
      refine .clientRefused ?_ (Or.inl fun message => by rintro ⟨⟩)
      rw [writing]
      trivial
  | ackRead =>
      rcases Option.ite_none_right_eq_some.mp taken with ⟨awaiting, read⟩
      have early : link.client.Early := by
        rw [awaiting]
        trivial
      split at read
      · rcases Option.ite_none_right_eq_some.mp read with ⟨-, same⟩
        cases same
        exact .clientRefused early (Or.inl fun message => by rintro ⟨⟩)
      · rename_i byte rest arrived
        split at read
        · rename_i ack
          cases read
          exact .ackHeard awaiting (ack ▸ arrived)
        · rename_i other
          cases read
          exact .clientRefused early
            (Or.inr ⟨byte, rest, arrived, other, awaiting⟩)
  | ackReadFailed =>
      rcases Option.ite_none_right_eq_some.mp taken with ⟨awaiting, same⟩
      cases same
      refine .clientRefused ?_ (Or.inl fun message => by rintro ⟨⟩)
      rw [awaiting]
      trivial
  | copyUp op =>
      rcases Option.ite_none_right_eq_some.mp taken with ⟨relaying, hop⟩
      rcases Option.map_eq_some_iff.mp hop with ⟨⟨phase, line⟩, copied, same⟩
      cases same
      exact .clientCopiedUp relaying copied
  | copyDown op =>
      rcases Option.ite_none_right_eq_some.mp taken with ⟨relaying, hop⟩
      rcases Option.map_eq_some_iff.mp hop with
        ⟨⟨phase, line, chunk⟩, copied, same⟩
      cases same
      exact .clientCopiedDown relaying copied
  | copyEnded =>
      rcases Option.ite_none_right_eq_some.mp taken with
        ⟨⟨relaying, up, down⟩, same⟩
      cases same
      exact .clientClosed relaying up down
  | copyFailed =>
      rcases Option.ite_none_right_eq_some.mp taken with
        ⟨⟨relaying, -⟩, same⟩
      cases same
      exact .clientFailed relaying

theorem guardStep_move {event : ServeSideEvent}
    (taken : link.guardStep registry peer roles link.guard event =
      some (next, actions)) :
    LinkMove registry peer roles service link (.guard event) next actions := by
  generalize serving : link.guard = phase at taken
  unfold guardStep at taken
  split at taken
  · rename_i received count
    rcases Option.ite_none_right_eq_some.mp taken with
      ⟨⟨-, enough, asked⟩, resumed⟩
    simp only [resumeServe, serveIo] at resumed
    cases read : readHeader (received ++ link.up.wire.take count) with
    | incomplete =>
        rw [read] at resumed
        cases resumed
        exact .headerIncomplete serving enough asked read
    | failed =>
        rw [read] at resumed
        cases resumed
        exact .headerDenied serving enough asked
    | complete header rest =>
        rw [read] at resumed
        simp only at resumed
        cases admitted : admitHeader registry peer roles header with
        | none =>
            rw [admitted] at resumed
            cases resumed
            exact .headerDenied serving enough asked
        | some exposed =>
            rw [admitted] at resumed
            cases resumed
            exact .headerAdmitted serving enough asked read admitted
  · rcases Option.ite_none_right_eq_some.mp taken with ⟨-, same⟩
    cases same
    exact .guardDenied serving trivial
  · cases taken
    exact .guardDenied serving trivial
  · cases taken
    exact .guardDenied serving trivial
  · cases taken
    exact .connected serving
  · cases taken
    exact .guardDenied serving trivial
  · rcases Option.ite_none_left_eq_some.mp taken with ⟨opened, same⟩
    cases same
    exact .acknowledged serving (Bool.eq_false_of_not_eq_true opened)
  · rename_i written
    simp only at taken
    split at taken
    · rename_i left
      cases taken
      exact .ackLost serving left.2
    · cases taken
      exact .guardDenied serving trivial
  · rcases Option.map_eq_some_iff.mp taken with
      ⟨⟨phase, line, chunk⟩, copied, same⟩
    cases same
    exact .guardCopiedUp serving copied
  · rcases Option.map_eq_some_iff.mp taken with ⟨⟨phase, line⟩, copied, same⟩
    cases same
    exact .guardCopiedDown serving copied
  · rcases Option.ite_none_right_eq_some.mp taken with ⟨⟨up, down⟩, same⟩
    cases same
    exact .guardClosed serving up down
  · rcases Option.ite_none_left_eq_some.mp taken with ⟨unfinished, same⟩
    cases same
    exact .guardFailed serving unfinished
  · cases taken

theorem stepLink_move {event : LinkEvent}
    (taken : stepLink registry peer roles service link event =
      some (next, actions)) :
    LinkMove registry peer roles service link event next actions := by
  cases event with
  | client event =>
      rcases Option.map_eq_some_iff.mp taken with ⟨moved, stepped, same⟩
      cases same
      exact clientStep_move registry peer roles stepped
  | guard event => exact guardStep_move taken
  | localWrites chunk =>
      rcases Option.ite_none_left_eq_some.mp taken with ⟨writing, same⟩
      cases same
      exact .localWrote (Bool.eq_false_of_not_eq_true writing)
  | localEnds =>
      cases taken
      exact .localEnded
  | serviceWrites chunk =>
      rcases Option.ite_none_right_eq_some.mp taken with
        ⟨⟨connected, writing⟩, same⟩
      cases same
      exact .serviceWrote connected writing
  | serviceEnds =>
      rcases Option.ite_none_right_eq_some.mp taken with ⟨-, same⟩
      cases same
      exact .serviceEnded
  | connectionLost up down =>
      cases taken
      exact .lost

end Inversion

/-! ## A small tunnel

The peer of the small Guard asks for its service, sends three bytes and gets
two back.
-/

namespace SmallLink

open SmallGuard

/-- The tunnel of the small registry. -/
def step : Step TunnelLink LinkEvent ServeAction :=
  stepLink registry peer ["reader"] "db"

/-- Up to the acknowledgement; the Guard reads the frame in three pieces. -/
def admission : List LinkEvent := [
  .client (.streamOpened (some (Vector.replicate sha256Len 0))),
  .client (.headerWritten 20), .guard (.headerRead 2),
  .guard (.headerRead 18), .localWrites [1, 2], .client (.headerWritten 17),
  .guard (.headerRead 17), .guard .connected, .guard .acknowledged,
  .client .ackRead]

/-- The bytes each way, in pieces. -/
def exchanges : List LinkEvent := [
  .serviceWrites [8, 9], .client (.copyUp (.read 2)),
  .client (.copyUp (.write 1)), .localWrites [3], .guard (.copyUp (.read 1)),
  .guard (.copyUp (.write 1)), .guard (.copyDown (.read 2)),
  .guard (.copyDown (.write 2)), .client (.copyUp (.read 1)),
  .client (.copyUp (.write 2)), .guard (.copyUp (.read 2)),
  .guard (.copyUp (.write 2)), .client (.copyDown (.read 2)),
  .client (.copyDown (.write 2))]

/-- Both programs end, and both ends pass it on. -/
def closes : List LinkEvent := [
  .localEnds, .client (.copyUp .endOfStream), .client (.copyUp .shutdown),
  .guard (.copyUp .endOfStream), .guard (.copyUp .shutdown), .serviceEnds,
  .guard (.copyDown .endOfStream), .guard (.copyDown .shutdown),
  .client (.copyDown .endOfStream), .client (.copyDown .shutdown),
  .client .copyEnded, .guard .copyEnded]

end SmallLink

end NuxAuth.Core
