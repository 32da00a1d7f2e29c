import NuxAuth.Lib.BoundedChannel
import NuxAuth.Core.Drain
import NuxAuth.Gateway.FileWrite

/-!
# The process of `nux guard`

Beside the service loop run two tasks that share its control channel: the one of
`spawn_reload_on_sighup`, which loads `guard.toml` for every SIGHUP it receives,
and the one that asks for the shutdown when the process is told to stop.

Signals that arrive while one is not yet received are one signal.  The file is
opened and read piece by piece, and meanwhile anybody may write it in place, put
another one in its place or remove it: what is open stays open.  A send claims a
place in the channel and waits for it if there is none.
-/

namespace NuxAuth.Gateway

open NuxAuth.Core
open NuxAuth.Lib.BoundedChannel NuxAuth.Lib.RecordedRun

/-! ## State and events -/

/-- The files that were or are at the path of `guard.toml`. -/
structure GuardFiles where
  content : Nat → List UInt8
  next : Nat
  /-- the file that the path leads to -/
  path : Option Nat
  within : ∀ file, path = some file → file < next

namespace GuardFiles

theorem within_none {next : Nat} (file : Nat)
    (same : (none : Option Nat) = some file) : file < next := by
  cases same

/-- Another content for a file that stays where it is. -/
def write (files : GuardFiles) (file : Nat) (content : List UInt8) :
    GuardFiles :=
  { files with content := Function.update files.content file content }

/-- Another file in the place of the one at the path. -/
def replace (files : GuardFiles) (content : List UInt8) : GuardFiles where
  content := Function.update files.content files.next content
  next := files.next + 1
  path := some files.next
  within file same := by
    cases same
    exact Nat.lt_succ_self _

/-- Nothing is left at the path; the file stays for who has opened it. -/
def remove (files : GuardFiles) : GuardFiles :=
  { files with path := none, within := within_none }

end GuardFiles

/-- The tasks that send on the control channel. -/
inductive ControlSender where
  | reload
  | stop
deriving DecidableEq

/-- Where the task of `spawn_reload_on_sighup` stands. -/
inductive ReloadPhase (PeerId : Type) where
  | waiting
  /-- a signal was received -/
  | opening
  /-- so much of the open file was read -/
  | reading (file : Nat) (got : List UInt8)
  /-- the list claims or holds a place in the channel -/
  | sending (list : Whitelist PeerId)
  | ended

/-- Where the task that waits for the end stands. -/
inductive StopPhase where
  | waiting
  | signalled
  | sending
  | ended
deriving DecidableEq

/-- The files at the path, the two tasks, their channel and the loop. -/
structure GuardProcess (PeerId : Type) where
  files : GuardFiles
  /-- a SIGHUP arrived that was not received yet -/
  hangup : Bool
  reload : ReloadPhase PeerId
  stop : StopPhase
  channel : Channel ControlSender (GuardControl PeerId)
  loop : GuardLoop PeerId

/-- What the host does to the process, and the steps of its parts. -/
inductive HostEvent (PeerId : Type) where
  /-- a file is written in place, whether the path still leads to it or not -/
  | written (file : Nat) (content : List UInt8)
  /-- another file is put at the path -/
  | replaced (content : List UInt8)
  | removed
  | sighup
  /-- a SIGTERM or Ctrl-C that the stop task listens for -/
  | stopSignal
  | receiveHangup
  | openFile
  /-- one more piece, or the end of the file -/
  | readFile (count : Nat)
  | readFails
  | pushReload
  | refuseReload
  | claimStop
  | pushStop
  | refuseStop
  /-- the loop receives a command -/
  | receive (now : Nat)
  | loop (event : GuardEvent PeerId)

/-- What the steps do that can be told from outside. -/
inductive HostAction (PeerId : Type) where
  /-- the whole of a file was read, and this came of it -/
  | loaded (file : List UInt8) (outcome : ReloadAction PeerId)
  | unreadable
  /-- the loop received the command -/
  | received (command : GuardControl PeerId)
  | guard (action : GuardAction PeerId)

/-- One recorded step of the process. -/
abbrev HostTransition (PeerId : Type) :=
  Transition (GuardProcess PeerId) (HostEvent PeerId) (HostAction PeerId)

/-- The capacity of the control channel. -/
def controlCapacity : Nat := 8

/-- `DEFAULT_SHUTDOWN_GRACE_PERIOD`, in seconds. -/
def defaultShutdownGracePeriod : Nat := 30

/-! ## The tasks -/

namespace GuardProcess

variable {PeerId : Type}

/-- A send that is refused ends the task. -/
def claimReload (process : GuardProcess PeerId) (list : Whitelist PeerId) :
    GuardProcess PeerId :=
  if process.channel.closed then
    { process with reload := .ended }
  else
    { process with
      reload := .sending list
      channel := process.channel.claim controlCapacity .reload }

/-- What becomes of a file that was read to its end. -/
def concludeReload (process : GuardProcess PeerId) :
    ReloadAction PeerId → GuardProcess PeerId
  | .reloadWhitelist list => process.claimReload list
  | .refused _ => { process with reload := .waiting }

/-- The shutdown claims a place, as the lists do. -/
def claimStop (process : GuardProcess PeerId) : GuardProcess PeerId :=
  if process.channel.closed then
    { process with stop := .ended }
  else
    { process with
      stop := .sending
      channel := process.channel.claim controlCapacity .stop }

/-- The loop drops the receiver when it returns. -/
def withLoop (process : GuardProcess PeerId) (loop : GuardLoop PeerId) :
    GuardProcess PeerId :=
  { process with
    channel := { process.channel with
      closed := process.channel.closed || !loop.running }
    loop := loop }

/-- All senders are gone, and all they sent was received. -/
def drained (process : GuardProcess PeerId) : Bool :=
  match process.reload, process.stop, process.channel.queue with
  | .ended, .ended, [] => true
  | _, _, _ => false

/-- The process when its loop starts.  No SIGHUP can be received if `signal`
failed for it; and where Ctrl-C cannot be listened for, the error ends the wait
of `wait_for_shutdown_signal` as the signal would. -/
def start (files : GuardFiles) (listens interrupts : Bool)
    (loop : GuardLoop PeerId) : GuardProcess PeerId where
  files := files
  hangup := false
  reload := if listens then .waiting else .ended
  stop := if interrupts then .waiting else .signalled
  channel := .empty
  loop := loop

end GuardProcess

section Steps

variable {PeerId : Type} (Multiaddr Namespace : Type) [PeerIdText PeerId]
  [DecidableEq PeerId] [PeerIdentity PeerId] [MultiaddrText Multiaddr]
  [NamespaceText Namespace]

/-- The next piece of the open file; `load` checks the whole. -/
def readPiece (toml : TomlEdit) (process : GuardProcess PeerId) (file : Nat)
    (got : List UInt8) (count : Nat) :
    GuardProcess PeerId × List (HostAction PeerId) :=
  match (process.files.content file).drop got.length with
  | [] =>
      let outcome := Gateway.reload PeerId Multiaddr Namespace toml got
      (process.concludeReload outcome, [.loaded got outcome])
  | piece =>
      ({ process with
          reload := .reading file (got ++ piece.take (count + 1)) }, [])

/-- One event of the loop that is no command. -/
def stepLoop (registry : TunnelRegistry PeerId)
    (process : GuardProcess PeerId) (event : GuardEvent PeerId) :
    Option (GuardProcess PeerId × List (HostAction PeerId)) :=
  (runGuardLoop registry process.loop event).map fun (loop, actions) =>
    (process.withLoop loop, actions.map .guard)

/-- The next step of the task of `spawn_reload_on_sighup`. -/
def stepReload (toml : TomlEdit) (process : GuardProcess PeerId)
    (event : HostEvent PeerId) :
    Option (GuardProcess PeerId × List (HostAction PeerId)) :=
  match process.reload, event with
  | .waiting, .receiveHangup =>
      if process.hangup then
        some ({ process with hangup := false, reload := .opening }, [])
      else
        none
  | .opening, .openFile =>
      match process.files.path with
      | some file => some ({ process with reload := .reading file [] }, [])
      | none => some ({ process with reload := .waiting }, [.unreadable])
  | .opening, .readFails =>
      some ({ process with reload := .waiting }, [.unreadable])
  | .reading file got, .readFile count =>
      some (readPiece Multiaddr Namespace toml process file got count)
  | .reading _ _, .readFails =>
      some ({ process with reload := .waiting }, [.unreadable])
  | .sending list, .pushReload =>
      (process.channel.push .reload (.reloadWhitelist list)).map fun channel =>
        ({ process with reload := .waiting, channel := channel }, [])
  | .sending _, .refuseReload =>
      if process.channel.closed ∧ .reload ∈ process.channel.waiting then
        some ({ process with
          reload := .ended
          channel := { process.channel with
            waiting := process.channel.waiting.erase .reload } }, [])
      else
        none
  | _, _ => none

omit [PeerIdText PeerId] [DecidableEq PeerId] [PeerIdentity PeerId] in
/-- The next step of the task that asks for the shutdown. -/
def stepStop (process : GuardProcess PeerId) (event : HostEvent PeerId) :
    Option (GuardProcess PeerId × List (HostAction PeerId)) :=
  match process.stop, event with
  | .signalled, .claimStop => some (process.claimStop, [])
  | .sending, .pushStop =>
      (process.channel.push .stop (.shutdown defaultShutdownGracePeriod)).map
        fun channel =>
          ({ process with stop := .ended, channel := channel }, [])
  | .sending, .refuseStop =>
      if process.channel.closed ∧ .stop ∈ process.channel.waiting then
        some ({ process with
          stop := .ended
          channel := { process.channel with
            waiting := process.channel.waiting.erase .stop } }, [])
      else
        none
  | _, _ => none

/-- The loop takes the oldest command. -/
def receive (registry : TunnelRegistry PeerId)
    (process : GuardProcess PeerId) (now : Nat) :
    Option (GuardProcess PeerId × List (HostAction PeerId)) :=
  if process.channel.closed then
    none
  else
    match process.channel.pop with
    | none => none
    | some (command, channel) =>
        (stepLoop registry { process with channel := channel }
          (.control command now)).map fun (next, actions) =>
            (next, .received command :: actions)

/-- One event of the host, of a task or of the loop. -/
def stepProcess (toml : TomlEdit) (registry : TunnelRegistry PeerId) :
    Step (GuardProcess PeerId) (HostEvent PeerId) (HostAction PeerId) :=
  fun process event =>
    match event with
    | .written file content =>
        some ({ process with files := process.files.write file content }, [])
    | .replaced content =>
        some ({ process with files := process.files.replace content }, [])
    | .removed =>
        some ({ process with files := process.files.remove }, [])
    | .sighup => some ({ process with hangup := true }, [])
    | .stopSignal =>
        -- the task listens for one signal only
        if process.stop = .waiting then
          some ({ process with stop := .signalled }, [])
        else
          some (process, [])
    | .receiveHangup => stepReload Multiaddr Namespace toml process event
    | .openFile => stepReload Multiaddr Namespace toml process event
    | .readFile _ => stepReload Multiaddr Namespace toml process event
    | .readFails => stepReload Multiaddr Namespace toml process event
    | .pushReload => stepReload Multiaddr Namespace toml process event
    | .refuseReload => stepReload Multiaddr Namespace toml process event
    | .claimStop => stepStop process event
    | .pushStop => stepStop process event
    | .refuseStop => stepStop process event
    | .receive now => receive registry process now
    | .loop (.control _ _) => none
    | .loop .controlClosed =>
        if process.drained then
          stepLoop registry process .controlClosed
        else
          none
    | .loop event => stepLoop registry process event

end Steps

/-! ## From the file to the loop -/

section Startup

variable {PeerId Multiaddr Namespace : Type} [DecidableEq PeerId]

/-- Every service of the file on its loopback port, and every fingerprint. -/
def guardRegistry (config : GuardConfig PeerId Multiaddr Namespace) :
    TunnelRegistry PeerId :=
  config.checksumBin.foldl
    (fun registry entry => registry.requireBinarySha256 entry.1 entry.2)
    (config.expose.foldl
      (fun registry entry =>
        registry.expose entry.1 (.loopback entry.2.1) entry.2.2)
      .new)

/-- `nux guard` on a configuration it has loaded. -/
def startGuard (config : GuardConfig PeerId Multiaddr Namespace)
    (files : GuardFiles) (listens interrupts : Bool) (metrics : Metrics)
    (connections : List (Connection PeerId)) : GuardProcess PeerId :=
  .start files listens interrupts
    (GuardLoop.start (GuardAuthenticator.new config.whitelist)
      (guardRegistry config) true metrics connections)

end Startup

/-! ## What a step can do -/

section Inversion

variable {PeerId : Type} (Multiaddr Namespace : Type) [PeerIdText PeerId]
  [DecidableEq PeerId] [PeerIdentity PeerId] [MultiaddrText Multiaddr]
  [NamespaceText Namespace]

/-- The steps of `stepProcess`, each with its guard and its effect. -/
inductive HostStep (toml : TomlEdit) (registry : TunnelRegistry PeerId)
    (process : GuardProcess PeerId) :
    HostEvent PeerId → GuardProcess PeerId →
      List (HostAction PeerId) → Prop where
  | written (file : Nat) (content : List UInt8) :
      HostStep toml registry process (.written file content)
        { process with files := process.files.write file content } []
  | replaced (content : List UInt8) :
      HostStep toml registry process (.replaced content)
        { process with files := process.files.replace content } []
  | removed :
      HostStep toml registry process .removed
        { process with files := process.files.remove } []
  | hungUp :
      HostStep toml registry process .sighup
        { process with hangup := true } []
  | stopNoted (waiting : process.stop = .waiting) :
      HostStep toml registry process .stopSignal
        { process with stop := .signalled } []
  | stopAgain (noted : process.stop ≠ .waiting) :
      HostStep toml registry process .stopSignal process []
  | received (waiting : process.reload = .waiting)
      (pending : process.hangup = true) :
      HostStep toml registry process .receiveHangup
        { process with hangup := false, reload := .opening } []
  | opened {file : Nat} (opening : process.reload = .opening)
      (path : process.files.path = some file) :
      HostStep toml registry process .openFile
        { process with reload := .reading file [] } []
  | missing (opening : process.reload = .opening)
      (path : process.files.path = none) :
      HostStep toml registry process .openFile
        { process with reload := .waiting } [.unreadable]
  | unreadable
      (loading : process.reload = .opening ∨
        ∃ file got, process.reload = .reading file got) :
      HostStep toml registry process .readFails
        { process with reload := .waiting } [.unreadable]
  | readOn (count : Nat) {file : Nat} {got piece : List UInt8}
      (reading : process.reload = .reading file got)
      (left : (process.files.content file).drop got.length = piece)
      (more : piece ≠ []) :
      HostStep toml registry process (.readFile count)
        { process with
          reload := .reading file (got ++ piece.take (count + 1)) } []
  | readEnd (count : Nat) {file : Nat} {got : List UInt8}
      (reading : process.reload = .reading file got)
      (ended : (process.files.content file).drop got.length = []) :
      HostStep toml registry process (.readFile count)
        (process.concludeReload
          (Gateway.reload PeerId Multiaddr Namespace toml got))
        [.loaded got (Gateway.reload PeerId Multiaddr Namespace toml got)]
  | pushedReload {list : Whitelist PeerId}
      (sending : process.reload = .sending list)
      (granted : .reload ∈ process.channel.granted) :
      HostStep toml registry process .pushReload
        { process with
          reload := .waiting
          channel := { process.channel with
            queue := process.channel.queue ++ [.reloadWhitelist list]
            granted := process.channel.granted.erase .reload } } []
  | refusedReload {list : Whitelist PeerId}
      (sending : process.reload = .sending list)
      (closed : process.channel.closed = true)
      (waits : .reload ∈ process.channel.waiting) :
      HostStep toml registry process .refuseReload
        { process with
          reload := .ended
          channel := { process.channel with
            waiting := process.channel.waiting.erase .reload } } []
  | claimedStop (signalled : process.stop = .signalled) :
      HostStep toml registry process .claimStop process.claimStop []
  | pushedStop (sending : process.stop = .sending)
      (granted : .stop ∈ process.channel.granted) :
      HostStep toml registry process .pushStop
        { process with
          stop := .ended
          channel := { process.channel with
            queue := process.channel.queue ++
              [.shutdown defaultShutdownGracePeriod]
            granted := process.channel.granted.erase .stop } } []
  | refusedStop (sending : process.stop = .sending)
      (closed : process.channel.closed = true)
      (waits : .stop ∈ process.channel.waiting) :
      HostStep toml registry process .refuseStop
        { process with
          stop := .ended
          channel := { process.channel with
            waiting := process.channel.waiting.erase .stop } } []
  | commanded (now : Nat) {command : GuardControl PeerId}
      {channel : Channel ControlSender (GuardControl PeerId)}
      {loop : GuardLoop PeerId} {actions : List (GuardAction PeerId)}
      (isOpen : process.channel.closed = false)
      (popped : process.channel.pop = some (command, channel))
      (taken : runGuardLoop registry process.loop (.control command now) =
        some (loop, actions)) :
      HostStep toml registry process (.receive now)
        ({ process with channel := channel }.withLoop loop)
        (.received command :: actions.map .guard)
  | looped {event : GuardEvent PeerId} {loop : GuardLoop PeerId}
      {actions : List (GuardAction PeerId)}
      (other : ∀ command now, event ≠ .control command now)
      (last : event = .controlClosed → process.drained = true)
      (taken : runGuardLoop registry process.loop event =
        some (loop, actions)) :
      HostStep toml registry process (.loop event)
        (process.withLoop loop) (actions.map .guard)

variable {Multiaddr Namespace}
  {toml : TomlEdit} {registry : TunnelRegistry PeerId}
  {process next : GuardProcess PeerId} {event : HostEvent PeerId}
  {actions : List (HostAction PeerId)}

omit [PeerIdText PeerId] [DecidableEq PeerId] [PeerIdentity PeerId] in
theorem push_eq_some {sender : ControlSender}
    {message : GuardControl PeerId}
    {channel after : Channel ControlSender (GuardControl PeerId)}
    (pushed : channel.push sender message = some after) :
    sender ∈ channel.granted ∧
      after = { channel with
        queue := channel.queue ++ [message]
        granted := channel.granted.erase sender } := by
  rw [Channel.push] at pushed
  rcases Option.ite_none_right_eq_some.mp pushed with ⟨holds, same⟩
  exact ⟨holds, (Option.some.inj same).symm⟩

theorem stepLoop_looped {happens : GuardEvent PeerId}
    (other : ∀ command now, happens ≠ .control command now)
    (last : happens = .controlClosed → process.drained = true)
    (taken : stepLoop registry process happens = some (next, actions)) :
    HostStep Multiaddr Namespace toml registry process (.loop happens) next
      actions := by
  rcases Option.map_eq_some_iff.mp taken with ⟨⟨loop, logged⟩, stepped, same⟩
  cases same
  exact .looped other last stepped

theorem stepReload_step
    (taken : stepReload Multiaddr Namespace toml process event =
      some (next, actions)) :
    HostStep Multiaddr Namespace toml registry process event next
      actions := by
  unfold stepReload at taken
  split at taken
  · next waiting =>
      rcases Option.ite_none_right_eq_some.mp taken with ⟨pending, same⟩
      cases same
      exact .received waiting pending
  · next opening =>
      split at taken
      · next file path =>
          cases taken
          exact .opened opening path
      · next path =>
          cases taken
          exact .missing opening path
  · next opening =>
      cases taken
      exact .unreadable (Or.inl opening)
  · next file got count reading =>
      rw [readPiece] at taken
      split at taken
      · next ended =>
          cases taken
          exact .readEnd count reading ended
      · next more =>
          cases taken
          exact .readOn count reading rfl more
  · next file got reading =>
      cases taken
      exact .unreadable (Or.inr ⟨file, got, reading⟩)
  · next list sending =>
      rcases Option.map_eq_some_iff.mp taken with ⟨channel, pushed, same⟩
      cases same
      rcases push_eq_some pushed with ⟨granted, rfl⟩
      exact .pushedReload sending granted
  · next list sending =>
      rcases Option.ite_none_right_eq_some.mp taken with ⟨refused, same⟩
      cases same
      exact .refusedReload sending refused.1 refused.2
  · cases taken

theorem stepStop_step
    (taken : stepStop process event = some (next, actions)) :
    HostStep Multiaddr Namespace toml registry process event next
      actions := by
  unfold stepStop at taken
  split at taken
  · next signalled =>
      cases taken
      exact .claimedStop signalled
  · next sending =>
      rcases Option.map_eq_some_iff.mp taken with ⟨channel, pushed, same⟩
      cases same
      rcases push_eq_some pushed with ⟨granted, rfl⟩
      exact .pushedStop sending granted
  · next sending =>
      rcases Option.ite_none_right_eq_some.mp taken with ⟨refused, same⟩
      cases same
      exact .refusedStop sending refused.1 refused.2
  · cases taken

theorem receive_step {now : Nat}
    (taken : receive registry process now = some (next, actions)) :
    HostStep Multiaddr Namespace toml registry process (.receive now) next
      actions := by
  rw [receive] at taken
  split at taken
  · cases taken
  · next isOpen =>
      split at taken
      · cases taken
      · next command channel popped =>
          rcases Option.map_eq_some_iff.mp taken with
            ⟨⟨after, logged⟩, stepped, same⟩
          rcases Option.map_eq_some_iff.mp stepped with
            ⟨⟨loop, guarded⟩, ran, pair⟩
          cases pair
          cases same
          exact .commanded now ((Bool.not_eq_true _).mp isOpen) popped ran

theorem stepProcess_step
    (taken : stepProcess Multiaddr Namespace toml registry process event =
      some (next, actions)) :
    HostStep Multiaddr Namespace toml registry process event next
      actions := by
  cases event with
  | written file content =>
      cases taken
      exact .written file content
  | replaced content =>
      cases taken
      exact .replaced content
  | removed =>
      cases taken
      exact .removed
  | sighup =>
      cases taken
      exact .hungUp
  | stopSignal =>
      simp only [stepProcess] at taken
      split at taken
      · next waiting =>
          cases taken
          exact .stopNoted waiting
      · next noted =>
          cases taken
          exact .stopAgain noted
  | receiveHangup | openFile | readFile count | readFails | pushReload
  | refuseReload => exact stepReload_step taken
  | claimStop | pushStop | refuseStop => exact stepStop_step taken
  | receive now => exact receive_step taken
  | loop event =>
      cases event with
      | control command now => cases taken
      | controlClosed =>
          rcases Option.ite_none_right_eq_some.mp taken with ⟨last, stepped⟩
          exact stepLoop_looped (by simp) (fun _ => last) stepped
      | _ => exact stepLoop_looped (by simp) (by simp) taken

end Inversion

end NuxAuth.Gateway
