import NuxAuth.Gateway.ApplyConfig

/-!
# Rewriting `guard.toml` under the eyes of the Guard

`apply_remote_config` ends in `std::fs::write`, which truncates the file and
then writes one prefix after another.  The call can fail or be killed after any
of them, and the handler of SIGHUP can load the file after any of them.  A
document cut short is often still a document, of a shorter whitelist.

The runs below are those of one call, with the signals that arrive meanwhile and
afterwards.
-/

namespace NuxAuth.Gateway

open NuxAuth.Core
open NuxAuth.Lib.Bincode NuxAuth.Lib.RecordedRun NuxAuth.Lib.Toml

/-! ## The call and the signals -/

/-- Where the call stands. -/
inductive ApplyPhase where
  | called
  /-- the new text is there, the file is not opened yet -/
  | opening (bytes : List UInt8)
  /-- truncated, and written up to here -/
  | writing (written rest : List UInt8)
  | returned (result : Except ApplyError Unit)
  /-- the process is gone -/
  | interrupted

/-- The file, and where the call stands. -/
structure FileState where
  file : List UInt8
  phase : ApplyPhase

/-- What can happen during a call; a reader may come in between. -/
inductive WriteEvent where
  | read (readable : Bool)
  | create (opened : Bool)
  | write (count : Nat)
  | writeFails
  | finish
  | interrupt
  | sighup
deriving DecidableEq

/-- What the handler of SIGHUP does. -/
inductive ReloadAction (PeerId : Type) where
  | reloadWhitelist (list : Whitelist PeerId)
  | refused (error : LoadError)

/-- The new content of a file, if it can be edited. -/
def rewritten (toml : TomlEdit) (remote : RemoteConfig)
    (file : List UInt8) : Option (List UInt8) :=
  ((utf8String? file).bind fun text => toml.rewrite text remote).map utf8Bytes

/-- The call up to its first access that changes the file. -/
def readAndEdit (toml : TomlEdit) (remote : RemoteConfig)
    (file : List UInt8) (readable : Bool) : ApplyPhase :=
  if readable then
    match utf8String? file with
    | none => .returned (.error .lecture)
    | some text =>
        match toml.rewrite text remote with
        | none => .returned (.error .tomlInvalide)
        | some next => .opening (utf8Bytes next)
  else
    .returned (.error .lecture)

section Steps

variable (PeerId Multiaddr Namespace : Type) [PeerIdText PeerId]
  [DecidableEq PeerId] [MultiaddrText Multiaddr] [NamespaceText Namespace]

/-- The handler of SIGHUP, on the file as it is. -/
def reload (toml : TomlEdit) (file : List UInt8) : ReloadAction PeerId :=
  match (load toml (utf8String? file) :
    Except LoadError (GuardConfig PeerId Multiaddr Namespace)) with
  | .ok config => .reloadWhitelist config.whitelist
  | .error error => .refused error

/-- One step of `apply_remote_config`, or a reading of the file meanwhile. -/
def stepApply (toml : TomlEdit) (remote : RemoteConfig) :
    Step FileState WriteEvent (ReloadAction PeerId) :=
  fun state event =>
    match event, state.phase with
    | .read readable, .called =>
        some (⟨state.file, readAndEdit toml remote state.file readable⟩, [])
    | .create true, .opening bytes => some (⟨[], .writing [] bytes⟩, [])
    | .create false, .opening _ =>
        some (⟨state.file, .returned (.error .ecriture)⟩, [])
    | .write count, .writing written (next :: rest) =>
        let done := (next :: rest).take (count + 1)
        some (⟨written ++ done,
          .writing (written ++ done) ((next :: rest).drop (count + 1))⟩, [])
    | .writeFails, .writing _ (_ :: _) =>
        some (⟨state.file, .returned (.error .ecriture)⟩, [])
    | .finish, .writing _ [] => some (⟨state.file, .returned (.ok ())⟩, [])
    | .interrupt, .called => some (⟨state.file, .interrupted⟩, [])
    | .interrupt, .opening _ => some (⟨state.file, .interrupted⟩, [])
    | .interrupt, .writing _ _ => some (⟨state.file, .interrupted⟩, [])
    | .sighup, _ =>
        some (state, [reload PeerId Multiaddr Namespace toml state.file])
    | _, _ => none

end Steps

/-- One recorded step of a call. -/
abbrev WriteTransition (PeerId : Type) :=
  Transition FileState WriteEvent (ReloadAction PeerId)

/-! ## All or nothing -/

/-- The old content, or the complete new one. -/
def Whole (toml : TomlEdit) (remote : RemoteConfig)
    (old file : List UInt8) : Prop :=
  file = old ∨ rewritten toml remote old = some file

section Runs

variable (PeerId Multiaddr Namespace : Type) [PeerIdText PeerId]
  [DecidableEq PeerId] [MultiaddrText Multiaddr] [NamespaceText Namespace]

/--
The file is whole wherever the call ends and wherever the Guard reads it, a call
that fails leaves it alone, and no other whitelist is installed than those of
the old and of the new content.
-/
structure Atomic (toml : TomlEdit) (remote : RemoteConfig)
    (old : List UInt8) (trace : List (WriteTransition PeerId)) : Prop where
  ended : ∀ transition ∈ trace, ∀ result,
    transition.after.phase = .returned result →
      Whole toml remote old transition.after.file
  interrupted : ∀ transition ∈ trace, transition.event = .interrupt →
    Whole toml remote old transition.after.file
  read : ∀ transition ∈ trace, transition.event = .sighup →
    Whole toml remote old transition.after.file
  failed : ∀ transition ∈ trace, ∀ error,
    transition.after.phase = .returned (.error error) →
      transition.after.file = old
  installs : ∀ transition ∈ trace, ∀ list,
    .reloadWhitelist list ∈ transition.actions →
      ∃ file, Whole toml remote old file ∧
        reload PeerId Multiaddr Namespace toml file = .reloadWhitelist list

end Runs

/--
Nothing fails, is killed or reads the file between its truncation and its last
byte, unless what is written up to there is the old content again.
-/
structure Undisturbed {PeerId : Type} (old : List UInt8)
    (trace : List (WriteTransition PeerId)) : Prop where
  unseen : ∀ transition ∈ trace, ∀ written next rest,
    transition.before.phase = .writing written (next :: rest) →
      transition.event = .sighup → written = old
  alive : ∀ transition ∈ trace, ∀ written next rest,
    transition.before.phase = .writing written (next :: rest) →
      transition.event = .interrupt → written = old
  succeeds : ∀ transition ∈ trace, ∀ written rest,
    transition.before.phase = .writing written rest →
      transition.event = .writeFails → written = old

/-! ## What a step can do -/

section Moves

variable (PeerId Multiaddr Namespace : Type) [PeerIdText PeerId]
  [DecidableEq PeerId] [MultiaddrText Multiaddr] [NamespaceText Namespace]

/-- The steps of a call, each with its effect. -/
inductive Moves (toml : TomlEdit) (remote : RemoteConfig) :
    FileState → WriteEvent → FileState → List (ReloadAction PeerId) →
      Prop where
  | read (file : List UInt8) (readable : Bool) :
      Moves toml remote ⟨file, .called⟩ (.read readable)
        ⟨file, readAndEdit toml remote file readable⟩ []
  | opened (file bytes : List UInt8) :
      Moves toml remote ⟨file, .opening bytes⟩ (.create true)
        ⟨[], .writing [] bytes⟩ []
  | refused (file bytes : List UInt8) :
      Moves toml remote ⟨file, .opening bytes⟩ (.create false)
        ⟨file, .returned (.error .ecriture)⟩ []
  | wrote (file written done rest : List UInt8) {left : List UInt8}
      (cut : done ++ rest = left) (count : Nat) :
      Moves toml remote ⟨file, .writing written left⟩ (.write count)
        ⟨written ++ done, .writing (written ++ done) rest⟩ []
  | torn (file written : List UInt8) (next : UInt8) (rest : List UInt8) :
      Moves toml remote ⟨file, .writing written (next :: rest)⟩ .writeFails
        ⟨file, .returned (.error .ecriture)⟩ []
  | finished (file written : List UInt8) :
      Moves toml remote ⟨file, .writing written []⟩ .finish
        ⟨file, .returned (.ok ())⟩ []
  | killedBefore (file : List UInt8) :
      Moves toml remote ⟨file, .called⟩ .interrupt ⟨file, .interrupted⟩ []
  | killedOpening (file bytes : List UInt8) :
      Moves toml remote ⟨file, .opening bytes⟩ .interrupt
        ⟨file, .interrupted⟩ []
  | killedWriting (file written rest : List UInt8) :
      Moves toml remote ⟨file, .writing written rest⟩ .interrupt
        ⟨file, .interrupted⟩ []
  | reloaded (state : FileState) :
      Moves toml remote state .sighup state
        [reload PeerId Multiaddr Namespace toml state.file]

end Moves

section Runs

variable {PeerId Multiaddr Namespace : Type} [PeerIdText PeerId]
  [DecidableEq PeerId] [MultiaddrText Multiaddr] [NamespaceText Namespace]
  {toml : TomlEdit} {remote : RemoteConfig} {old : List UInt8}

theorem stepApply_moves {state next : FileState} {event : WriteEvent}
    {actions : List (ReloadAction PeerId)}
    (taken : stepApply PeerId Multiaddr Namespace toml remote state event =
      some (next, actions)) :
    Moves PeerId Multiaddr Namespace toml remote state event next actions := by
  rcases state with ⟨file, phase⟩
  simp only [stepApply] at taken
  split at taken
  · cases taken
    exact .read _ _
  · cases taken
    exact .opened _ _
  · cases taken
    exact .refused _ _
  · cases taken
    exact .wrote _ _ _ _ (List.take_append_drop _ _) _
  · cases taken
    exact .torn _ _ _ _
  · cases taken
    exact .finished _ _
  · cases taken
    exact .killedBefore _
  · cases taken
    exact .killedOpening _ _
  · cases taken
    exact .killedWriting _ _ _
  · cases taken
    exact .reloaded _
  · cases taken

/-! ## What the phase says of the file -/

/-- This holds whatever goes wrong. -/
def Accounted (toml : TomlEdit) (remote : RemoteConfig) (old : List UInt8)
    (state : FileState) : Prop :=
  match state.phase with
  | .called => state.file = old
  | .opening bytes =>
      state.file = old ∧ rewritten toml remote old = some bytes
  | .writing written rest =>
      state.file = written ∧
        rewritten toml remote old = some (written ++ rest)
  | .returned (.ok _) => rewritten toml remote old = some state.file
  | .returned (.error _) => True
  | .interrupted => True

/-- This holds where nothing goes wrong halfway. -/
def Intact (toml : TomlEdit) (remote : RemoteConfig) (old : List UInt8)
    (state : FileState) : Prop :=
  match state.phase with
  | .returned (.error _) => state.file = old
  | .interrupted => Whole toml remote old state.file
  | _ => True

theorem readAndEdit_cases (toml : TomlEdit) (remote : RemoteConfig)
    (file : List UInt8) (readable : Bool) :
    (∃ error, readAndEdit toml remote file readable =
        .returned (.error error)) ∨
      ∃ bytes, rewritten toml remote file = some bytes ∧
        readAndEdit toml remote file readable = .opening bytes := by
  rw [readAndEdit]
  split
  · split
    · exact Or.inl ⟨_, rfl⟩
    · next text decoded =>
        split
        · exact Or.inl ⟨_, rfl⟩
        · next text_ edited =>
            refine Or.inr ⟨_, ?_, rfl⟩
            rw [rewritten, decoded, Option.bind_some, edited]
            rfl
  · exact Or.inl ⟨_, rfl⟩

theorem Accounted.step {state next : FileState} {event : WriteEvent}
    {actions : List (ReloadAction PeerId)}
    (moves :
      Moves PeerId Multiaddr Namespace toml remote state event next actions)
    (accounted : Accounted toml remote old state) :
    Accounted toml remote old next := by
  cases moves with
  | read file readable =>
      cases (accounted : file = old)
      rcases readAndEdit_cases toml remote file readable with
        ⟨error, failed⟩ | ⟨bytes, computed, opening⟩
      · rw [failed]
        trivial
      · rw [opening]
        exact ⟨rfl, computed⟩
  | opened file bytes => exact ⟨rfl, accounted.2⟩
  | refused file bytes => trivial
  | wrote file written done rest cut count =>
      refine ⟨rfl, ?_⟩
      rw [List.append_assoc, cut]
      exact accounted.2
  | torn file written first rest => trivial
  | finished file written =>
      have same : file = written := accounted.1
      have computed := accounted.2
      rw [List.append_nil, ← same] at computed
      exact computed
  | killedBefore file => trivial
  | killedOpening file bytes => trivial
  | killedWriting file written rest => trivial
  | reloaded => exact accounted

variable {trace : List (WriteTransition PeerId)} {finish : FileState}

theorem accounted_of_run
    (run : Run (stepApply PeerId Multiaddr Namespace toml remote)
      ⟨old, .called⟩ trace finish) :
    Accounted toml remote old finish :=
  run.invariant rfl fun _ _ _ _ accounted taken =>
    accounted.step (stepApply_moves taken)

theorem Accounted.file_of_writing {state : FileState}
    {written rest : List UInt8}
    (accounted : Accounted toml remote old state)
    (phase : state.phase = .writing written rest) :
    state.file = written := by
  rw [Accounted, phase] at accounted
  exact accounted.1

/-- A file cut short is whole only where it is the old one. -/
theorem Accounted.eq_of_whole {state : FileState}
    {written rest : List UInt8} {next : UInt8}
    (accounted : Accounted toml remote old state)
    (phase : state.phase = .writing written (next :: rest))
    (whole : Whole toml remote old state.file) :
    written = old := by
  rw [accounted.file_of_writing phase] at whole
  rw [Accounted, phase] at accounted
  rcases whole with same | complete
  · exact same
  · have lengths := congrArg List.length
      (Option.some.inj (complete.symm.trans accounted.2))
    simp at lengths

/-- A file is whole unless it is cut short. -/
theorem Accounted.whole {state : FileState}
    (accounted : Accounted toml remote old state)
    (intact : Intact toml remote old state)
    (complete : ∀ written next rest,
      state.phase = .writing written (next :: rest) → written = old) :
    Whole toml remote old state.file := by
  rcases state with ⟨file, phase⟩
  cases phase with
  | called => exact Or.inl accounted
  | opening bytes => exact Or.inl accounted.1
  | writing written rest =>
      have same : file = written := accounted.1
      cases rest with
      | nil =>
          have computed := accounted.2
          rw [List.append_nil, ← same] at computed
          exact Or.inr computed
      | cons next rest => exact Or.inl (same.trans (complete _ _ _ rfl))
  | returned result =>
      cases result with
      | ok => exact Or.inr accounted
      | error error => exact Or.inl intact
  | interrupted => exact intact

/-! ## Undisturbed runs -/

omit [PeerIdText PeerId] [DecidableEq PeerId] in
theorem Undisturbed.mono {part : List (WriteTransition PeerId)}
    (undisturbed : Undisturbed old trace)
    (within : ∀ transition ∈ part, transition ∈ trace) :
    Undisturbed old part where
  unseen transition member :=
    undisturbed.unseen transition (within transition member)
  alive transition member :=
    undisturbed.alive transition (within transition member)
  succeeds transition member :=
    undisturbed.succeeds transition (within transition member)

theorem Intact.step {state next : FileState} {event : WriteEvent}
    {actions : List (ReloadAction PeerId)}
    (moves :
      Moves PeerId Multiaddr Namespace toml remote state event next actions)
    (undisturbed : Undisturbed old [⟨state, event, actions, next⟩])
    (accounted : Accounted toml remote old state)
    (intact : Intact toml remote old state) :
    Intact toml remote old next := by
  cases moves with
  | read file readable =>
      cases (accounted : file = old)
      rcases readAndEdit_cases toml remote file readable with
        ⟨error, failed⟩ | ⟨bytes, -, opening⟩
      · rw [failed]
        rfl
      · rw [opening]
        trivial
  | opened file bytes => trivial
  | refused file bytes => exact accounted.1
  | wrote file written done rest cut count => trivial
  | torn file written first rest =>
      have same := undisturbed.succeeds _ (List.mem_singleton.mpr rfl)
        written (first :: rest) rfl rfl
      exact accounted.1.trans same
  | finished file written => trivial
  | killedBefore file => exact Or.inl accounted
  | killedOpening file bytes => exact Or.inl accounted.1
  | killedWriting file written rest =>
      refine accounted.whole trivial fun cut next left phase => ?_
      exact undisturbed.alive _ (List.mem_singleton.mpr rfl) cut next left
        phase rfl
  | reloaded => exact intact

theorem intact_of_run
    (run : Run (stepApply PeerId Multiaddr Namespace toml remote)
      ⟨old, .called⟩ trace finish)
    (undisturbed : Undisturbed old trace) :
    Intact toml remote old finish := by
  induction run with
  | start => trivial
  | snoc prior taken induction =>
      have intact := induction (undisturbed.mono fun _ member =>
        List.mem_append_left _ member)
      have last := undisturbed.mono fun _ member =>
        List.mem_append_right _ member
      exact Intact.step (stepApply_moves taken) last (accounted_of_run prior)
        intact

/-- Where a transition of a run begins, and what it can do. -/
theorem moves_of_run
    (run : Run (stepApply PeerId Multiaddr Namespace toml remote)
      ⟨old, .called⟩ trace finish)
    {transition : WriteTransition PeerId} (member : transition ∈ trace) :
    Accounted toml remote old transition.before ∧
      Moves PeerId Multiaddr Namespace toml remote transition.before
        transition.event transition.after transition.actions := by
  rcases List.mem_iff_append.mp member with ⟨earlier, later, rfl⟩
  rcases run.transition with ⟨prior, taken, -⟩
  exact ⟨accounted_of_run prior, stepApply_moves taken⟩

/-- Where it leads. -/
theorem intact_after
    (run : Run (stepApply PeerId Multiaddr Namespace toml remote)
      ⟨old, .called⟩ trace finish)
    (undisturbed : Undisturbed old trace)
    {transition : WriteTransition PeerId} (member : transition ∈ trace) :
    Accounted toml remote old transition.after ∧
      Intact toml remote old transition.after := by
  rcases List.mem_iff_append.mp member with ⟨earlier, later, rfl⟩
  rcases run.transition with ⟨prior, taken, -⟩
  have reached := prior.snoc taken
  refine ⟨accounted_of_run reached, intact_of_run reached ?_⟩
  refine undisturbed.mono fun inner within => ?_
  rcases List.mem_append.mp within with front | here
  · exact List.mem_append_left _ front
  · rw [List.mem_singleton.mp here]
    exact member

/-- A signal leaves everything as it is and loads the file. -/
theorem Moves.of_sighup {state next : FileState} {event : WriteEvent}
    {actions : List (ReloadAction PeerId)}
    (moves :
      Moves PeerId Multiaddr Namespace toml remote state event next actions)
    (signal : event = .sighup) :
    next = state ∧
      actions = [reload PeerId Multiaddr Namespace toml state.file] := by
  cases moves with
  | reloaded => exact ⟨rfl, rfl⟩
  | _ => cases signal

/-- Nothing is installed without one. -/
theorem Moves.sighup_of_action {state next : FileState} {event : WriteEvent}
    {actions : List (ReloadAction PeerId)} {action : ReloadAction PeerId}
    (moves :
      Moves PeerId Multiaddr Namespace toml remote state event next actions)
    (taken : action ∈ actions) :
    event = .sighup := by
  cases moves with
  | reloaded => rfl
  | _ => cases taken

theorem Moves.of_interrupt {state next : FileState} {event : WriteEvent}
    {actions : List (ReloadAction PeerId)}
    (moves :
      Moves PeerId Multiaddr Namespace toml remote state event next actions)
    (killed : event = .interrupt) :
    next = ⟨state.file, .interrupted⟩ := by
  cases moves with
  | killedBefore => rfl
  | killedOpening => rfl
  | killedWriting => rfl
  | _ => cases killed

theorem Moves.of_writeFails {state next : FileState} {event : WriteEvent}
    {actions : List (ReloadAction PeerId)}
    (moves :
      Moves PeerId Multiaddr Namespace toml remote state event next actions)
    (fails : event = .writeFails) :
    next = ⟨state.file, .returned (.error .ecriture)⟩ := by
  cases moves with
  | torn => rfl
  | _ => cases fails

theorem Atomic.undisturbed
    (run : Run (stepApply PeerId Multiaddr Namespace toml remote)
      ⟨old, .called⟩ trace finish)
    (atomic : Atomic PeerId Multiaddr Namespace toml remote old trace) :
    Undisturbed old trace := by
  constructor
  · intro transition member written next rest phase event
    rcases moves_of_run run member with ⟨accounted, moves⟩
    have whole := atomic.read transition member event
    rw [(moves.of_sighup event).1] at whole
    exact accounted.eq_of_whole phase whole
  · intro transition member written next rest phase event
    rcases moves_of_run run member with ⟨accounted, moves⟩
    have whole := atomic.interrupted transition member event
    rw [moves.of_interrupt event] at whole
    exact accounted.eq_of_whole phase whole
  · intro transition member written rest phase event
    rcases moves_of_run run member with ⟨accounted, moves⟩
    have failed := moves.of_writeFails event
    have kept := atomic.failed transition member .ecriture
      (congrArg FileState.phase failed)
    rw [failed] at kept
    exact (accounted.file_of_writing phase).symm.trans kept

theorem Undisturbed.atomic
    (run : Run (stepApply PeerId Multiaddr Namespace toml remote)
      ⟨old, .called⟩ trace finish)
    (undisturbed : Undisturbed old trace) :
    Atomic PeerId Multiaddr Namespace toml remote old trace := by
  have read : ∀ transition ∈ trace, transition.event = .sighup →
      Whole toml remote old transition.after.file := by
    intro transition member event
    rcases intact_after run undisturbed member with ⟨accounted, intact⟩
    refine accounted.whole intact fun written next rest phase => ?_
    rw [((moves_of_run run member).2.of_sighup event).1] at phase
    exact undisturbed.unseen transition member written next rest phase event
  constructor
  · intro transition member result phase
    rcases intact_after run undisturbed member with ⟨accounted, intact⟩
    refine accounted.whole intact fun written next rest writing => ?_
    rw [phase] at writing
    cases writing
  · intro transition member event
    rcases intact_after run undisturbed member with ⟨accounted, intact⟩
    refine accounted.whole intact fun written next rest writing => ?_
    rw [(moves_of_run run member).2.of_interrupt event] at writing
    cases writing
  · exact read
  · intro transition member error phase
    rcases intact_after run undisturbed member with ⟨-, intact⟩
    rw [Intact, phase] at intact
    exact intact
  · intro transition member list installed
    have moves := (moves_of_run run member).2
    have event := moves.sighup_of_action installed
    rcases moves.of_sighup event with ⟨same, loads⟩
    have whole := read transition member event
    rw [loads] at installed
    rw [same] at whole
    exact ⟨_, whole, (List.mem_singleton.mp installed).symm⟩

/--
The rewriting is atomic exactly when nothing fails, is killed or reads the file
between its truncation and its last byte, unless it is back to the old content
there.
-/
theorem rewrite_is_atomic_iff (toml : TomlEdit) (remote : RemoteConfig)
    (old : List UInt8) {trace : List (WriteTransition PeerId)}
    {finish : FileState}
    (run : Run (stepApply PeerId Multiaddr Namespace toml remote)
      ⟨old, .called⟩ trace finish) :
    Atomic PeerId Multiaddr Namespace toml remote old trace ↔
      Undisturbed old trace :=
  ⟨fun atomic => atomic.undisturbed run,
    fun undisturbed => undisturbed.atomic run⟩

end Runs

section SmallRuns

open SmallGateway

theorem readAndEdit_of_rewritten {toml : TomlEdit} {remote : RemoteConfig}
    {old bytes : List UInt8}
    (computed : rewritten toml remote old = some bytes) :
    readAndEdit toml remote old true = .opening bytes := by
  rcases Option.map_eq_some_iff.mp computed with ⟨next, edited, rfl⟩
  rcases Option.bind_eq_some_iff.mp edited with ⟨text, decoded, edited⟩
  rw [readAndEdit, if_pos rfl, decoded]
  simp only
  rw [edited]

theorem rewritten_utf8Bytes {toml : TomlEdit} {remote : RemoteConfig}
    {text next : String} (edited : toml.rewrite text remote = some next) :
    rewritten toml remote (utf8Bytes text) = some (utf8Bytes next) := by
  rw [rewritten, utf8String?_utf8Bytes, Option.bind_some, edited]
  rfl

theorem rewrite_small :
    smallToml.rewrite smallText smallRemote = some smallRewritten := by
  have parsed : smallToml.parse smallText = some smallRoot := if_pos rfl
  rw [TomlEdit.rewrite, parsed]
  rfl

theorem utf8Bytes_smallRewritten_ne_nil : utf8Bytes smallRewritten ≠ [] := by
  intro empty
  have same := utf8Bytes_injective (empty.trans (rfl : _ = utf8Bytes ""))
  exact absurd same (by decide +kernel)

/-- A call with the small configuration. -/
abbrev smallStep :=
  stepApply BytePeer PlainText PlainText smallToml smallRemote

/-- A call that is left alone, and a signal after it. -/
theorem rewrite_is_atomic_iff_small :
    ∃ (trace : List (WriteTransition BytePeer)) (finish : FileState),
      Run smallStep ⟨utf8Bytes smallText, .called⟩ trace finish ∧
        finish.file = utf8Bytes smallRewritten ∧
          Atomic BytePeer PlainText PlainText smallToml smallRemote
            (utf8Bytes smallText) trace := by
  have computed := rewritten_utf8Bytes rewrite_small
  have opening := readAndEdit_of_rewritten computed
  rcases List.exists_cons_of_ne_nil utf8Bytes_smallRewritten_ne_nil with
    ⟨first, rest, bytes⟩
  rw [bytes] at opening
  have reads : smallStep ⟨utf8Bytes smallText, .called⟩ (.read true) =
      some (⟨utf8Bytes smallText, .opening (first :: rest)⟩, []) := by
    rw [← opening]
    rfl
  have creates : smallStep ⟨utf8Bytes smallText, .opening (first :: rest)⟩
      (.create true) = some (⟨[], .writing [] (first :: rest)⟩, []) :=
    rfl
  have writes : smallStep ⟨[], .writing [] (first :: rest)⟩
      (.write rest.length) =
        some (⟨first :: rest, .writing (first :: rest) []⟩, []) := by
    have whole : (first :: rest).take (rest.length + 1) = first :: rest :=
      List.take_of_length_le (Nat.le_refl _)
    have nothing : (first :: rest).drop (rest.length + 1) = [] :=
      List.drop_of_length_le (Nat.le_refl _)
    simp only [smallStep, stepApply, whole, nothing, List.nil_append]
  have finishes : smallStep ⟨first :: rest, .writing (first :: rest) []⟩
      .finish = some (⟨first :: rest, .returned (.ok ())⟩, []) :=
    rfl
  have signals : smallStep ⟨first :: rest, .returned (.ok ())⟩ .sighup =
      some (⟨first :: rest, .returned (.ok ())⟩,
        [reload BytePeer PlainText PlainText smallToml (first :: rest)]) :=
    rfl
  have run := Run.cons reads (Run.cons creates (Run.cons writes
    (Run.cons finishes (Run.cons signals .start))))
  refine ⟨_, _, run, bytes.symm, ?_⟩
  refine (rewrite_is_atomic_iff _ _ _ run).mpr ?_
  constructor
  · intro transition member written next left phase event
    simp only [List.mem_cons, List.not_mem_nil, or_false] at member
    rcases member with rfl | rfl | rfl | rfl | rfl
    · cases event
    · cases event
    · cases event
    · cases event
    · cases phase
  · intro transition member written next left phase event
    simp only [List.mem_cons, List.not_mem_nil, or_false] at member
    rcases member with rfl | rfl | rfl | rfl | rfl <;> cases event
  · intro transition member written left phase event
    simp only [List.mem_cons, List.not_mem_nil, or_false] at member
    rcases member with rfl | rfl | rfl | rfl | rfl <;> cases event

/-- What an empty file parses to. -/
def blankRoot : TomlRoot := fun _ => none

/-- The libraries, where the file may also be empty. -/
def blankFromStr (text : String) : Option TomlRoot :=
  if text = "" then some blankRoot else smallFromStr text

/-- Libraries that know the empty file. -/
def blankToml : TomlEdit :=
  { smallToml with parse := blankFromStr, fromStr := blankFromStr }

/-- A signal arrives once the file is truncated.  The Guard loads the empty
document, and no peer is allowed any more. -/
theorem truncated_file_empties_whitelist :
    ∃ (trace : List (WriteTransition BytePeer)) (finish : FileState),
      Run (stepApply BytePeer PlainText PlainText blankToml smallRemote)
          ⟨utf8Bytes smallRewritten, .called⟩ trace finish ∧
        trace.map Transition.event = [.read true, .create true, .sighup] ∧
        .reloadWhitelist Whitelist.new ∈ trace.flatMap Transition.actions ∧
        ¬ Atomic BytePeer PlainText PlainText blankToml smallRemote
          (utf8Bytes smallRewritten) trace := by
  have filled := utf8Bytes_smallRewritten_ne_nil
  have parsed : blankToml.parse smallRewritten =
      some (assigned3 smallRoot) := by
    show blankFromStr smallRewritten = _
    rw [blankFromStr, if_neg (by decide +kernel), smallFromStr,
      if_neg (by decide +kernel), if_pos rfl]
  have edited : blankToml.rewrite smallRewritten smallRemote =
      some smallRewritten := by
    rw [TomlEdit.rewrite, parsed]
    rfl
  have computed := rewritten_utf8Bytes edited
  have opening := readAndEdit_of_rewritten computed
  generalize utf8Bytes smallRewritten = old at filled computed opening ⊢
  have reads : stepApply BytePeer PlainText PlainText blankToml smallRemote
      ⟨old, .called⟩ (.read true) = some (⟨old, .opening old⟩, []) := by
    rw [← opening]
    rfl
  have creates : stepApply BytePeer PlainText PlainText blankToml smallRemote
      ⟨old, .opening old⟩ (.create true) =
        some (⟨[], .writing [] old⟩, []) :=
    rfl
  have loaded : reload BytePeer PlainText PlainText blankToml [] =
      .reloadWhitelist Whitelist.new := by
    have decoded : utf8String? [] = some "" := utf8String?_utf8Bytes ""
    have parsed : blankFromStr "" = some blankRoot := if_pos rfl
    have loads : load blankToml (some "") =
        .ok (⟨⟨defaultListen⟩, 30, 60, [], Whitelist.new, [], [], none,
          none⟩ : GuardConfig BytePeer PlainText PlainText) :=
      load_eq_ok_iff.mpr ⟨blankRoot, _, parsed, rfl, rfl⟩
    rw [reload, decoded, loads]
  have signals : stepApply BytePeer PlainText PlainText blankToml smallRemote
      ⟨[], .writing [] old⟩ .sighup =
        some (⟨[], .writing [] old⟩, [.reloadWhitelist Whitelist.new]) := by
    rw [← loaded]
    rfl
  have run := Run.cons reads (Run.cons creates (Run.cons signals .start))
  refine ⟨_, _, run, rfl, List.mem_singleton.mpr rfl, fun atomic => ?_⟩
  rcases atomic.read _ (List.mem_cons_of_mem _ (List.mem_cons_of_mem _
      (List.mem_singleton.mpr rfl))) rfl with same | complete
  · exact filled same.symm
  · exact filled (Option.some.inj (computed.symm.trans complete))

end SmallRuns

end NuxAuth.Gateway
