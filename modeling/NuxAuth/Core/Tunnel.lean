import NuxAuth.Core.Authenticator

/-!
# Serving one tunnel stream on the Guard

A serve task reads the opening frame, decides whether the peer may reach the
named service, connects to it, acknowledges with one byte and then relays.
Every await of the source is a stage here, and what can end that await is an
event; the header timer may fire at any moment while the frame is incomplete.

The decision is `admitHeader`: the service is exposed, the role it requires is
among the roles captured when the stream was dequeued, and the declared
fingerprint is the registered one where there is one.
-/

namespace NuxAuth.Core

open NuxAuth.Lib.Bincode NuxAuth.Lib.FiniteTable

/-! ## The table of exposed services -/

/-- An address with its port. -/
inductive SocketAddr where
  | v4 (octets : Vector UInt8 4) (port : UInt16)
  | v6 (octets : Vector UInt8 16) (port : UInt16) (flowinfo scopeId : UInt32)
deriving DecidableEq

/-- `127.0.0.1`. -/
def SocketAddr.loopback (port : UInt16) : SocketAddr :=
  .v4 #v[127, 0, 0, 1] port

/-- A service, and the role it asks for if it asks for one. -/
structure ExposedService where
  target : SocketAddr
  requiredRole : Option String
deriving DecidableEq

/-- The services a Guard tunnels, its two stream caps, and the fingerprints it
expects of some peers. -/
structure TunnelRegistry (PeerId : Type) where
  services : Table String ExposedService
  maxStreamsPerPeer : Nat
  maxStreamsTotal : Nat
  attestedBinaries : Table PeerId Sha256

/-- `DEFAULT_MAX_STREAMS_PER_PEER`. -/
def defaultMaxStreamsPerPeer : Nat := 64

/-- `DEFAULT_MAX_STREAMS_TOTAL`. -/
def defaultMaxStreamsTotal : Nat := 1024

namespace TunnelRegistry

variable {PeerId : Type}

/-- No service and no fingerprint, with the default caps. -/
def new : TunnelRegistry PeerId where
  services := ∅
  maxStreamsPerPeer := defaultMaxStreamsPerPeer
  maxStreamsTotal := defaultMaxStreamsTotal
  attestedBinaries := ∅

/-- Other caps than the default ones. -/
def maxConcurrentStreams (registry : TunnelRegistry PeerId)
    (perPeer total : Nat) : TunnelRegistry PeerId :=
  { registry with maxStreamsPerPeer := perPeer, maxStreamsTotal := total }

/-- A service by its name; the last one of a name counts. -/
def expose (registry : TunnelRegistry PeerId) (name : String)
    (target : SocketAddr) (requiredRole : Option String) :
    TunnelRegistry PeerId :=
  { registry with
    services := registry.services.insert name ⟨target, requiredRole⟩ }

/-- The service of this name. -/
def get (registry : TunnelRegistry PeerId) (name : String) :
    Option ExposedService :=
  registry.services.lookup name

variable [DecidableEq PeerId]

/-- The fingerprint that the binary of a peer must have. -/
def requireBinarySha256 (registry : TunnelRegistry PeerId) (peer : PeerId)
    (sha256 : Sha256) : TunnelRegistry PeerId :=
  { registry with
    attestedBinaries := registry.attestedBinaries.insert peer sha256 }

/-- The fingerprint that is expected of a peer, if any is. -/
def expectedBinarySha256 (registry : TunnelRegistry PeerId)
    (peer : PeerId) : Option Sha256 :=
  registry.attestedBinaries.lookup peer

end TunnelRegistry

/-- Scan all session roles for the required one, without early exit. -/
def roleGranted (granted : List String) (required : Option String) : Bool :=
  match required with
  | none => true
  | some required =>
      granted.foldl
        (fun authorized role =>
          if utf8Bytes role = utf8Bytes required then true else authorized)
        false

private theorem foldl_roleGranted (granted : List String) (required : String)
    (authorized : Bool) :
    granted.foldl
        (fun authorized role =>
          if utf8Bytes role = utf8Bytes required then true else authorized)
        authorized = true ↔
      authorized = true ∨ required ∈ granted := by
  induction granted generalizing authorized with
  | nil => simp
  | cons role rest induction =>
      rw [List.foldl_cons, induction, List.mem_cons]
      by_cases same : role = required
      · simp [same]
      · have different : utf8Bytes role ≠ utf8Bytes required :=
          fun equal => same (utf8Bytes_injective equal)
        rw [if_neg different]
        simp [Ne.symm same]

theorem roleGranted_iff (granted : List String) (required : Option String) :
    roleGranted granted required = true ↔
      ∀ role, required = some role → role ∈ granted := by
  cases required with
  | none => simp [roleGranted]
  | some role =>
      rw [roleGranted, foldl_roleGranted]
      simp

/-! ## The opening frame -/

/-- How far the reader got with the bytes received so far. -/
inductive HeaderRead where
  | incomplete
  | failed
  | complete (header : TunnelHeader) (rest : List UInt8)

/-- A big-endian length, refused past the bound before the frame is read. -/
def readHeader (received : List UInt8) : HeaderRead :=
  match received with
  | high :: low :: body =>
      let length := high.toNat * 256 + low.toNat
      if length > maxTunnelHeaderSize then
        .failed
      else if body.length < length then
        .incomplete
      else
        match decodeTunnelHeader (body.take length) with
        | none => .failed
        | some header => .complete header (body.drop length)
  | _ => .incomplete

/-- The checks of `serve_io` between the frame and the local connection. -/
def admitHeader {PeerId : Type} [DecidableEq PeerId]
    (registry : TunnelRegistry PeerId) (peer : PeerId) (roles : List String)
    (header : TunnelHeader) : Option ExposedService :=
  match registry.get header.service with
  | none => none
  | some service =>
      if roleGranted roles service.requiredRole then
        match registry.expectedBinarySha256 peer with
        | some expected =>
            if header.binarySha256 = expected then some service else none
        | none => some service
      else
        none

theorem admitHeader_eq_some_iff {PeerId : Type} [DecidableEq PeerId]
    {registry : TunnelRegistry PeerId} {peer : PeerId} {roles : List String}
    {header : TunnelHeader} {service : ExposedService} :
    admitHeader registry peer roles header = some service ↔
      registry.get header.service = some service ∧
        (∀ role, service.requiredRole = some role → role ∈ roles) ∧
          ∀ expected, registry.expectedBinarySha256 peer = some expected →
            header.binarySha256 = expected := by
  unfold admitHeader
  cases exposed : registry.get header.service with
  | none => simp
  | some stored =>
      rw [Option.some.injEq]
      constructor
      · intro admitted
        simp only [roleGranted_iff] at admitted
        split at admitted
        · rename_i granted
          cases attested : registry.expectedBinarySha256 peer with
          | none =>
              rw [attested] at admitted
              cases admitted
              exact ⟨rfl, granted, by simp⟩
          | some expected =>
              rw [attested] at admitted
              simp only [Option.ite_none_right_eq_some] at admitted
              rcases admitted with ⟨declared, same⟩
              cases same
              exact ⟨rfl, granted, by simpa using declared⟩
        · contradiction
      · rintro ⟨rfl, granted, declared⟩
        simp only [(roleGranted_iff _ _).mpr granted, if_true]
        cases attested : registry.expectedBinarySha256 peer with
        | none => rfl
        | some expected => simp [declared expected attested]

/-! ## The serve task -/

/-- What a serve task returns. -/
inductive TunnelOutcome where
  | denied
  | served (bytesFromPeer bytesToPeer : UInt64)
deriving DecidableEq

/-- Where a serve task is waiting. -/
inductive ServeStage where
  | readingHeader (received : List UInt8)
  | connecting (header : TunnelHeader) (service : ExposedService)
  | acknowledging (header : TunnelHeader) (service : ExposedService)
  | relaying (header : TunnelHeader) (service : ExposedService)

/-- What can end the wait of a serve task. -/
inductive ServeEvent where
  | received (chunk : List UInt8)
  | headerUnreadable
  | headerTimedOut
  | connected
  | connectFailed
  | acknowledged
  | acknowledgeFailed
  | relayClosed (bytesFromPeer bytesToPeer : UInt64)
  | relayInterrupted

/-- What a serve task does towards the outside. -/
inductive ServeAction where
  | connect (service : String) (target : SocketAddr)
  | writeAck (service : String)
deriving DecidableEq

/-- The service that is meant. -/
def ServeAction.service : ServeAction → String
  | .connect service _ => service
  | .writeAck service => service

/-- A serve task goes on or returns. -/
inductive ServeResult where
  | continues (stage : ServeStage) (actions : List ServeAction)
  | ends (outcome : TunnelOutcome)

/-- One resumption of `serve_io`; `none` where the event cannot occur. -/
def serveIo {PeerId : Type} [DecidableEq PeerId]
    (registry : TunnelRegistry PeerId) (peer : PeerId)
    (roles : List String) : ServeStage → ServeEvent → Option ServeResult
  | .readingHeader received, .received chunk =>
      match readHeader (received ++ chunk) with
      | .incomplete =>
          some (.continues (.readingHeader (received ++ chunk)) [])
      | .failed => some (.ends .denied)
      | .complete header _ =>
          match admitHeader registry peer roles header with
          | none => some (.ends .denied)
          | some service =>
              some (.continues (.connecting header service)
                [.connect header.service service.target])
  | .readingHeader _, .headerUnreadable => some (.ends .denied)
  | .readingHeader _, .headerTimedOut => some (.ends .denied)
  | .connecting header service, .connected =>
      some (.continues (.acknowledging header service)
        [.writeAck header.service])
  | .connecting _ _, .connectFailed => some (.ends .denied)
  | .acknowledging header service, .acknowledged =>
      some (.continues (.relaying header service) [])
  | .acknowledging _ _, .acknowledgeFailed => some (.ends .denied)
  | .relaying _ _, .relayClosed fromPeer toPeer =>
      some (.ends (.served fromPeer toPeer))
  -- The bytes relayed before an error are not reported by the runtime.
  | .relaying _ _, .relayInterrupted => some (.ends (.served 0 0))
  | _, _ => none

/-- The header a task past its decision was admitted with. -/
def ServeStage.admitted? : ServeStage → Option (TunnelHeader × ExposedService)
  | .readingHeader _ => none
  | .connecting header service => some (header, service)
  | .acknowledging header service => some (header, service)
  | .relaying header service => some (header, service)

/-- What one resumption can do to a task that goes on. -/
theorem serveIo_continues {PeerId : Type} [DecidableEq PeerId]
    {registry : TunnelRegistry PeerId} {peer : PeerId} {roles : List String}
    {stage next : ServeStage} {event : ServeEvent}
    {actions : List ServeAction}
    (resumed : serveIo registry peer roles stage event =
      some (.continues next actions)) :
    (∃ received chunk,
        stage = .readingHeader received ∧ event = .received chunk ∧
          next = .readingHeader (received ++ chunk) ∧ actions = []) ∨
      (∃ received chunk header rest service,
        stage = .readingHeader received ∧ event = .received chunk ∧
          readHeader (received ++ chunk) = .complete header rest ∧
            admitHeader registry peer roles header = some service ∧
              next = .connecting header service ∧
                actions = [.connect header.service service.target]) ∨
      (∃ header service,
        stage = .connecting header service ∧ event = .connected ∧
          next = .acknowledging header service ∧
            actions = [.writeAck header.service]) ∨
      (∃ header service,
        stage = .acknowledging header service ∧ event = .acknowledged ∧
          next = .relaying header service ∧ actions = []) := by
  unfold serveIo at resumed
  split at resumed
  · rename_i received chunk
    split at resumed
    · cases resumed
      exact Or.inl ⟨received, chunk, rfl, rfl, rfl, rfl⟩
    · cases resumed
    · rename_i header rest complete
      split at resumed
      · cases resumed
      · rename_i service admitted
        cases resumed
        exact Or.inr (Or.inl ⟨received, chunk, header, rest, service, rfl, rfl,
          complete, admitted, rfl, rfl⟩)
  · cases resumed
  · cases resumed
  · rename_i header service
    cases resumed
    exact Or.inr (Or.inr (Or.inl ⟨header, service, rfl, rfl, rfl, rfl⟩))
  · cases resumed
  · rename_i header service
    cases resumed
    exact Or.inr (Or.inr (Or.inr ⟨header, service, rfl, rfl, rfl, rfl⟩))
  all_goals cases resumed

end NuxAuth.Core
