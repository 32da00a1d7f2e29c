import NuxAuth.Core.GuardTasks
import NuxAuth.Gateway.Roles

/-!
# The running gateway

The gateway process holds the table, a bounded channel of control commands and
the embedded Guard loop.  `put_config` writes its row and then sends its
commands one after the other, waiting while the channel is full; the loop
receives them in between its other events.  Nothing else sends on the channel,
and its sender lives as long as the process.

The calls of `put_config` follow one another: a call begins when the one before
it has sent its last command.
-/

namespace NuxAuth.Gateway

open NuxAuth.Core
open NuxAuth.Lib.KeyedList NuxAuth.Lib.RecordedRun

/-! ## State, events and actions -/

/-- The database, the commands under way and the loop of a gateway. -/
structure NuxGateway (PeerId : Type) where
  table : ConfigTable
  /-- commands the current `put_config` call has yet to send -/
  sending : List (GuardControl PeerId)
  channel : List (GuardControl PeerId)
  guard : GuardLoop PeerId

/-- What can happen to a gateway whose calls come one after the other. -/
inductive GatewayEvent (PeerId : Type) where
  | putConfig (uuid : String) (input : ConfigNodeGuardInput)
      (updatedAt : String) (written : Bool)
  | send
  | receive (now : Nat)
  | guard (event : GuardEvent PeerId)

/-- What the calls and the loop do. -/
inductive GatewayAction (PeerId : Type) where
  | refused (error : AppError)
  | panicked
  | saved (config : ConfigNodeGuard)
  /-- the channel was closed -/
  | unsent
  | guard (action : GuardAction PeerId)
deriving DecidableEq

/-- One recorded step of the gateway. -/
abbrev GatewayTransition (PeerId : Type) :=
  Transition (NuxGateway PeerId) (GatewayEvent PeerId) (GatewayAction PeerId)

/-- `GUARD_CONTROL_CHANNEL_CAPACITY`. -/
def guardControlChannelCapacity : Nat := 64

/-- The loop reads commands from the channel alone. -/
def FromChannel {PeerId : Type} : GuardEvent PeerId → Bool
  | .control _ _ => true
  | .controlClosed => true
  | _ => false

section Start

variable {PeerId : Type} [DecidableEq PeerId]

/-- The two inner routers, each for its role. -/
def gatewayRegistry (guardPort clientPort : UInt16) : TunnelRegistry PeerId :=
  let registry := TunnelRegistry.new.expose "gwapi-guard"
    (.loopback guardPort) (some roleGuard)
  registry.expose "gwapi-client"
    (.loopback clientPort) (some roleClient)

/-- `main`: the whitelist is rebuilt from the rows as they were loaded. -/
def NuxGateway.boot [PeerIdText PeerId] (serde : SerdeJson)
    (registry : TunnelRegistry PeerId) (table : ConfigTable)
    (loaded : List ConfigNodeGuardRow) : Option (NuxGateway PeerId) :=
  (rebuildWhitelist serde loaded).map fun whitelist => {
    table := table
    sending := []
    channel := []
    guard := GuardLoop.start (GuardAuthenticator.new whitelist) registry true
      {} [] }

end Start

variable {PeerId : Type} [DecidableEq PeerId] [PeerIdentity PeerId]
    [PeerIdText PeerId]

/-- One event of the gateway. -/
def stepGateway (serde : SerdeJson) (registry : TunnelRegistry PeerId) :
    Step (NuxGateway PeerId) (GatewayEvent PeerId) (GatewayAction PeerId) :=
  fun gateway event =>
    match event with
    | .putConfig uuid input updatedAt written =>
        match gateway.sending with
        | _ :: _ => none
        | [] =>
            match putConfig serde gateway.table uuid input updatedAt
              written with
            | .refused error => some (gateway, [.refused error])
            | .panicked table =>
                some ({ gateway with table := table }, [.panicked])
            | .saved table config messages =>
                some ({ gateway with table := table, sending := messages },
                  [.saved config])
    | .send =>
        match gateway.sending with
        | [] => none
        | message :: rest =>
            if gateway.guard.running ∧ gateway.guard.control then
              if gateway.channel.length < guardControlChannelCapacity then
                some ({ gateway with
                  sending := rest
                  channel := gateway.channel ++ [message] }, [])
              else
                none
            else
              some ({ gateway with sending := rest }, [.unsent])
    | .receive now =>
        match gateway.channel with
        | [] => none
        | command :: rest =>
            (runGuardLoop registry gateway.guard (.control command now)).map
              fun result =>
                ({ gateway with channel := rest, guard := result.1 },
                  result.2.map .guard)
    | .guard event =>
        if FromChannel event then
          none
        else
          (runGuardLoop registry gateway.guard event).map fun result =>
            ({ gateway with guard := result.1 }, result.2.map .guard)

/-! ## A loop that keeps receiving -/

/-- The loop runs, no shutdown was requested and the channel is open. -/
structure Receiving (guard : GuardLoop PeerId) : Prop where
  running : guard.running = true
  control : guard.control = true
  serving : guard.shutdownDeadline = none

section Receiving

variable {registry : TunnelRegistry PeerId} {guard next : GuardLoop PeerId}
    {event : GuardEvent PeerId} {actions : List (GuardAction PeerId)}

omit [PeerIdText PeerId] in
/-- What a receiving loop does with an idle event changes nothing. -/
theorem Receiving.idle (receiving : Receiving guard)
    (taken : runGuardLoop registry guard event = some (next, actions))
    (quiet : event = .otherSwarmEvent ∨ ∃ now, event = .drainTick now) :
    next = guard := by
  rcases quiet with rfl | ⟨now, rfl⟩
  · rcases Option.ite_none_right_eq_some.mp taken with ⟨-, same⟩
    cases same
    rfl
  · rcases Option.ite_none_right_eq_some.mp taken with ⟨-, same⟩
    rcases Option.map_eq_some_iff.mp same with ⟨ticked, checked, -⟩
    rw [GuardLoop.drainCheck, receiving.serving] at checked
    cases checked

omit [PeerIdText PeerId] in
/-- Only commands and the end of the channel stop the loop from receiving. -/
theorem Receiving.step (receiving : Receiving guard)
    (taken : runGuardLoop registry guard event = some (next, actions))
    (other : ¬ FromChannel event) :
    Receiving next := by
  rcases receiving with ⟨running, control, serving⟩
  have step := runGuardLoop_step taken
  cases step with
  | streamOverCap found _ authorized reserved full =>
      rcases GuardLoop.peerSemaphore_cases reserved with ⟨-, rfl⟩ | ⟨-, -, rfl⟩
      · exact ⟨running, control, serving⟩
      · exact ⟨running, control, serving⟩
  | streamSpawned found _ authorized reserved permitted =>
      rcases GuardLoop.peerSemaphore_cases reserved with ⟨-, rfl⟩ | ⟨-, -, rfl⟩
      · exact ⟨running, control, serving⟩
      · exact ⟨running, control, serving⟩
  | stopping gracePeriod now => exact absurd rfl other
  | revoked peer now => exact absurd rfl other
  | allowed peer roles now => exact absurd rfl other
  | reloaded newWhitelist now => exact absurd rfl other
  | idle _ _ quiet =>
      have ticked : event = .otherSwarmEvent ∨
          ∃ now, event = .drainTick now := by
        rcases quiet with unrelated | rfl | tick
        · exact Or.inl unrelated
        · exact absurd rfl other
        · exact Or.inr tick
      rw [Receiving.idle ⟨running, control, serving⟩ taken ticked]
      exact ⟨running, control, serving⟩
  | _ => exact ⟨running, control, serving⟩

omit [PeerIdText PeerId] in
/-- A receiving loop carries out `allow` and receives on. -/
theorem Receiving.allow (receiving : Receiving guard) {peer : PeerId}
    {roles : List String} {now : Nat}
    (taken : runGuardLoop registry guard (.control (.allow peer roles) now) =
      some (next, actions)) :
    Receiving next ∧ next.authenticator.whitelist =
      guard.authenticator.whitelist.allow peer roles := by
  rcases Option.ite_none_right_eq_some.mp taken with ⟨-, wired⟩
  rcases Option.ite_none_right_eq_some.mp wired with ⟨-, handled⟩
  cases handled
  exact ⟨⟨receiving.running, receiving.control, receiving.serving⟩, rfl⟩

omit [PeerIdText PeerId] in
theorem whitelist_kept_of_not_fromChannel
    (taken : runGuardLoop registry guard event = some (next, actions))
    (other : ¬ FromChannel event) :
    next.authenticator.whitelist = guard.authenticator.whitelist := by
  apply (runGuardLoop_step taken).whitelist_kept
  intro command
  cases event with
  | control command now => exact other rfl
  | _ => exact command

end Receiving

/-! ## A small gateway

Two peers, and configurations without checksums.  The text functions print as
`serde_json` does and read back what they printed of the listed values.
-/

namespace SmallGateway

/-- The text of a Guard. -/
def guardText : String :=
  "12D3KooWQK1wnefoLrcVHbbnf5tLzbopUd3K3bFAoJpA7YJgL5pV"

/-- The text of a client. -/
def clientText : String :=
  "12D3KooWDwTirQce1RRKnasT5fPVFgzXCy6SiRgSwrwPGLC7zE91"

/-- The Guard of that text. -/
def guardPeer : BytePeer := ⟨1⟩

/-- The client of that text. -/
def clientPeer : BytePeer := ⟨2⟩

instance : PeerIdText BytePeer where
  fromStr text :=
    if text = guardText then
      some guardPeer
    else if text = clientText then
      some clientPeer
    else
      none

/-- The limits of all small configurations. -/
def rateLimit : RateLimit := ⟨120, 60, []⟩

/-- A configuration that allows the listed peers. -/
def allowing (peers : List String) : ConfigNodeGuardInput :=
  ⟨rateLimit, peers.map fun peer => ⟨peer, []⟩, []⟩

/-- A JSON array. -/
def printEntries (entries : List String) : String :=
  "[" ++ String.intercalate "," entries ++ "]"

/-- The column of the limits. -/
def printRateLimit (limit : RateLimit) : String :=
  "\x7b\"max\":" ++ toString limit.max.toNat ++ ",\"window_secs\":" ++
    toString limit.windowSecs.toNat ++ ",\"exempt\":" ++
      printEntries limit.exempt ++ "\x7d"

/-- The column of the allowed peers. -/
def printAllow (allow : List Allow) : String :=
  printEntries (allow.map fun entry =>
    "\x7b\"peer\":\"" ++ entry.peer ++ "\",\"roles\":" ++
      printEntries entry.roles ++ "\x7d")

/-- Columns that are read by looking up what was printed. -/
def serde : SerdeJson where
  rateLimitToString := printRateLimit
  rateLimitFromStr text := [rateLimit].find? fun limit =>
    printRateLimit limit = text
  allowToString := printAllow
  allowFromStr text :=
    ([[], [guardText], [clientText]].map fun peers =>
      (allowing peers).allow).find? fun allow => printAllow allow = text
  checkSumToString checkSum := printEntries (checkSum.map CheckSum.sha256)
  checkSumFromStr text := [[]].find? fun checkSum : List CheckSum =>
    printEntries (checkSum.map CheckSum.sha256) = text

/-- A database without a row. -/
def emptyTable : ConfigTable where
  rows := []
  primaryKey := .nil _

/-- A call, and the loop consuming each of the commands it sends. -/
def puts (uuid : String) (peers : List String) :
    List (GatewayEvent BytePeer) :=
  .putConfig uuid (allowing peers) "0" true ::
    (List.replicate (peers.length + 1) [.send, .receive 0]).flatten

end SmallGateway

end NuxAuth.Gateway
