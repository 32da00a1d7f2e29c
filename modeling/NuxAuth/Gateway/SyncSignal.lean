import NuxAuth.Lib.LastWrite
import NuxAuth.Gateway.SyncConfig

/-!
# Telling the Guard about a new `guard.toml`

A cycle of `sync_config_loop` that rewrote `guard.toml` remembers the stamp of
the configuration first and sends SIGHUP afterwards.  A signal that could not
be sent leaves a warning in the log and nothing else, so the next cycle finds
the stamp unchanged and the Guard is not told.

The runs below take the answer of the gateway, the outcome of the rewrite and
that of the signal as they come, and anybody may edit the file between two
cycles.
-/

namespace NuxAuth.Gateway

open NuxAuth.Lib.LastWrite NuxAuth.Lib.RecordedRun

/-! ## Cycles with their signal -/

/-- How a cycle ends, and the signal behind it. -/
inductive SignalAction where
  | sync (action : SyncAction)
  | sendSighup (delivered : Bool)
deriving DecidableEq

/-- A cycle, with what the gateway, the file and the signal make of it, or a
change of the file by anybody else. -/
inductive SignalEvent where
  | cycle (answer : Option RemoteConfig) (access : FileAccess)
      (delivered : Bool)
  | edited (file : Option DocumentMut)

/-- Only an applied configuration is followed by a signal. -/
def withSighup (delivered : Bool) : SyncAction → List SignalAction
  | .applied remote => [.sync (.applied remote), .sendSighup delivered]
  | action => [.sync action]

/-- A whole cycle of the loop. -/
def syncCycle (state : SyncState) (answer : Option RemoteConfig)
    (access : FileAccess) (delivered : Bool) :
    SyncState × List SignalAction :=
  match answer with
  | none => (state, [.sync .fetchFailed])
  | some remote =>
      let (next, actions) := concludeCycle state remote access
      -- the stamp is already remembered when the signal is sent
      (next, actions.flatMap (withSighup delivered))

/-- A cycle, or a change of the file by somebody else. -/
def stepSignal (state : SyncState) :
    SignalEvent → Option (SyncState × List SignalAction)
  | .cycle answer access delivered =>
      some (syncCycle state answer access delivered)
  | .edited file => some ({ state with file := file }, [])

/-- One recorded cycle or change. -/
abbrev SignalTransition := Transition SyncState SignalEvent SignalAction

/-- All that a run does. -/
def signalLog (trace : List SignalTransition) : List SignalAction :=
  trace.flatMap Transition.actions

/-! ## Told since the last rewrite -/

/-- A write of `guard.toml` for this stamp, the torn ones among them. -/
def RewritesFor (stamp : String) : SignalAction → Prop
  | .sync (.applied remote) => remote.updatedAt = stamp
  | .sync (.refused remote .ecriture) => remote.updatedAt = stamp
  | _ => False

/-- A signal arrived after the file was last written for this stamp. -/
def Told (stamp : String) (log : List SignalAction) : Prop :=
  Since (· = .sendSighup true) (RewritesFor stamp) log

/-- Whenever a configuration is skipped, the Guard had been told of it. -/
def SkipsAreTold (trace : List SignalTransition) : Prop :=
  ∀ {earlier later : List SignalTransition} {mark : SignalTransition}
    {remote : RemoteConfig},
    trace = earlier ++ mark :: later →
      .sync (.unchanged remote) ∈ mark.actions →
        Told remote.updatedAt (signalLog earlier)

/-! ## The condition on the inputs -/

/-- The stamp a cycle rewrites the file for, with the outcome of its signal:
a new stamp, and a call of `apply_remote_config` that succeeds. -/
def rewriteOf (transition : SignalTransition) : Option (String × Bool) :=
  match transition.event with
  | .cycle (some remote) access delivered =>
      if transition.before.lastUpdatedAt = some remote.updatedAt then
        none
      else
        match (applyRemoteConfig transition.before.file remote access).2 with
        | .ok () => some (remote.updatedAt, delivered)
        | .error _ => none
  | _ => none

/-- The last cycle that rewrote the file. -/
def lastRewrite (trace : List SignalTransition) : Option (String × Bool) :=
  lastSome rewriteOf trace

/-- The cycle is answered with this configuration. -/
def Fetches (transition : SignalTransition) (remote : RemoteConfig) : Prop :=
  ∃ access delivered,
    transition.event = .cycle (some remote) access delivered

/-- No stamp is fetched again while the last rewrite is one for this stamp
whose signal failed. -/
def NotFetchedUntold (trace : List SignalTransition) : Prop :=
  ∀ {earlier later : List SignalTransition} {mark : SignalTransition}
    {remote : RemoteConfig},
    trace = earlier ++ mark :: later → Fetches mark remote →
      lastRewrite earlier ≠ some (remote.updatedAt, false)

/-- Signals that all arrive are enough. -/
theorem notFetchedUntold_of_delivered {trace : List SignalTransition}
    (delivered : ∀ transition ∈ trace, ∀ answer access,
      transition.event ≠ .cycle answer access false) :
    NotFetchedUntold trace := by
  rintro earlier later mark remote rfl - latest
  rcases (lastSome_eq_some_iff _ _ _).mp latest with
    ⟨front, failed, back, rfl, rewritten, -⟩
  rw [rewriteOf] at rewritten
  split at rewritten
  · next answer access signal event =>
      split at rewritten
      · cases rewritten
      · split at rewritten
        · simp only [Option.some.injEq, Prod.mk.injEq] at rewritten
          rw [rewritten.2] at event
          exact delivered failed (by simp) _ _ event
        · cases rewritten
  · cases rewritten

/-! ## What a step can do -/

/-- A step keeps the stamp and writes nothing for it, or it rewrites the file
for another one and sends the signal. -/
inductive SignalEffect (transition : SignalTransition) : Prop where
  | silent (actions : transition.actions = [])
      (rewrite : rewriteOf transition = none)
      (stamp : transition.after.lastUpdatedAt =
        transition.before.lastUpdatedAt)
  | kept {action : SyncAction} (actions : transition.actions = [.sync action])
      (rewrite : rewriteOf transition = none)
      (stamp : transition.after.lastUpdatedAt =
        transition.before.lastUpdatedAt)
      (foreign : ∀ stamp, transition.before.lastUpdatedAt = some stamp →
        ¬ RewritesFor stamp (.sync action))
  | rewrote {remote : RemoteConfig} {delivered : Bool}
      (actions : transition.actions =
        [.sync (.applied remote), .sendSighup delivered])
      (rewrite : rewriteOf transition = some (remote.updatedAt, delivered))
      (stamp : transition.after.lastUpdatedAt = some remote.updatedAt)

theorem concludeCycle_unchanged {state : SyncState} {remote : RemoteConfig}
    (access : FileAccess)
    (same : state.lastUpdatedAt = some remote.updatedAt) :
    concludeCycle state remote access =
      ({ state with fetched := none }, [.unchanged remote]) :=
  if_pos same

theorem stepSignal_effect {state next : SyncState} {event : SignalEvent}
    {actions : List SignalAction}
    (taken : stepSignal state event = some (next, actions)) :
    SignalEffect ⟨state, event, actions, next⟩ := by
  cases event with
  | edited file =>
      cases taken
      exact .silent rfl rfl rfl
  | cycle answer access delivered =>
      cases answer with
      | none =>
          cases taken
          exact .kept rfl rfl rfl fun _ _ => id
      | some remote =>
          simp only [stepSignal, syncCycle, Option.some.injEq,
            Prod.mk.injEq] at taken
          rcases taken with ⟨rfl, rfl⟩
          by_cases same : state.lastUpdatedAt = some remote.updatedAt
          · rw [concludeCycle_unchanged access same]
            refine .kept rfl ?_ rfl fun _ _ => id
            rw [rewriteOf]
            exact if_pos same
          · rw [concludeCycle, if_neg same]
            rcases result : applyRemoteConfig state.file remote access with
              ⟨file, ⟨error⟩ | ⟨⟨⟩⟩⟩
            · refine .kept rfl ?_ rfl ?_
              · simp [rewriteOf, same, result]
              · intro stamp remembered rewrites
                cases error with
                | lecture => exact rewrites
                | tomlInvalide => exact rewrites
                | ecriture =>
                    exact same (remembered.trans (congrArg some rewrites.symm))
            · refine .rewrote rfl ?_ rfl
              simp [rewriteOf, same, result]

/-- A cycle that fetches the remembered stamp skips it. -/
theorem skips_of_fetches {state next : SyncState} {event : SignalEvent}
    {actions : List SignalAction} {remote : RemoteConfig}
    (taken : stepSignal state event = some (next, actions))
    (fetches : Fetches ⟨state, event, actions, next⟩ remote)
    (same : state.lastUpdatedAt = some remote.updatedAt) :
    .sync (.unchanged remote) ∈ actions := by
  rcases fetches with ⟨access, delivered, rfl⟩
  simp only [stepSignal, syncCycle, concludeCycle_unchanged access same,
    Option.some.injEq, Prod.mk.injEq] at taken
  rw [← taken.2]
  exact List.mem_singleton.mpr rfl

/-- And only such a cycle does. -/
theorem fetches_of_skips {state next : SyncState} {event : SignalEvent}
    {actions : List SignalAction} {remote : RemoteConfig}
    (taken : stepSignal state event = some (next, actions))
    (skips : .sync (.unchanged remote) ∈ actions) :
    Fetches ⟨state, event, actions, next⟩ remote ∧
      state.lastUpdatedAt = some remote.updatedAt := by
  cases event with
  | edited file =>
      cases taken
      cases skips
  | cycle answer access delivered =>
      cases answer with
      | none =>
          cases taken
          simp at skips
      | some fetched =>
          simp only [stepSignal, syncCycle, Option.some.injEq,
            Prod.mk.injEq] at taken
          rcases taken with ⟨rfl, rfl⟩
          by_cases same : state.lastUpdatedAt = some fetched.updatedAt
          · rw [concludeCycle_unchanged access same] at skips
            simp only [List.flatMap_singleton, withSighup,
              List.mem_singleton, SignalAction.sync.injEq,
              SyncAction.unchanged.injEq] at skips
            subst skips
            exact ⟨⟨access, delivered, rfl⟩, same⟩
          · rw [concludeCycle, if_neg same] at skips
            rcases result : applyRemoteConfig state.file fetched access with
              ⟨file, ⟨error⟩ | ⟨⟨⟩⟩⟩
            · simp [result, withSighup] at skips
            · simp [result, withSighup] at skips

/-! ## What the stamp remembers -/

/-- The stamp is that of the last rewrite, and the Guard was told since that
one exactly when its own signal arrived. -/
structure Remembers (trace : List SignalTransition) (state : SyncState) :
    Prop where
  stamp : state.lastUpdatedAt = (lastRewrite trace).map Prod.fst
  told : ∀ {stamp : String} {delivered : Bool},
    lastRewrite trace = some (stamp, delivered) →
      (Told stamp (signalLog trace) ↔ delivered = true)

theorem lastRewrite_snoc (trace : List SignalTransition)
    (last : SignalTransition) :
    lastRewrite (trace ++ [last]) =
      (rewriteOf last).or (lastRewrite trace) := by
  rw [lastRewrite, lastSome_append, lastSome_cons, lastSome_nil,
    Option.none_or]
  rfl

theorem signalLog_snoc (trace : List SignalTransition)
    (last : SignalTransition) :
    signalLog (trace ++ [last]) = signalLog trace ++ last.actions := by
  rw [signalLog, List.flatMap_append, List.flatMap_singleton]
  rfl

/-- An action that neither is a signal nor writes for the stamp. -/
theorem told_snoc_sync {stamp : String} {log : List SignalAction}
    {action : SyncAction} (foreign : ¬ RewritesFor stamp (.sync action)) :
    Told stamp (log ++ [.sync action]) ↔ Told stamp log := by
  rw [Told, since_snoc_iff]
  constructor
  · rintro (now | ⟨before, -⟩)
    · cases now
    · exact before
  · intro before
    exact Or.inr ⟨before, foreign⟩

/-- Right after a rewrite, only its own signal tells the Guard. -/
theorem told_snoc_rewrite {log : List SignalAction} {remote : RemoteConfig}
    {delivered : Bool} :
    Told remote.updatedAt
        (log ++ [.sync (.applied remote), .sendSighup delivered]) ↔
      delivered = true := by
  have apart : log ++ [.sync (.applied remote), .sendSighup delivered] =
      (log ++ [.sync (.applied remote)]) ++ [.sendSighup delivered] := by
    rw [List.append_assoc]
    rfl
  rw [apart, Told, since_snoc_iff, since_snoc_iff]
  constructor
  · rintro (now | ⟨now | ⟨-, open_⟩, -⟩)
    · exact SignalAction.sendSighup.inj now
    · cases now
    · exact absurd rfl open_
  · rintro rfl
    exact Or.inl rfl

theorem Remembers.step {trace : List SignalTransition}
    {last : SignalTransition} (remembers : Remembers trace last.before)
    (effect : SignalEffect last) :
    Remembers (trace ++ [last]) last.after := by
  cases effect with
  | silent actions rewrite stamp =>
      constructor
      · rw [lastRewrite_snoc, rewrite, Option.none_or, stamp]
        exact remembers.stamp
      · intro stamp delivered latest
        rw [lastRewrite_snoc, rewrite, Option.none_or] at latest
        rw [signalLog_snoc, actions, List.append_nil]
        exact remembers.told latest
  | kept actions rewrite stamp foreign =>
      constructor
      · rw [lastRewrite_snoc, rewrite, Option.none_or, stamp]
        exact remembers.stamp
      · intro stamp delivered latest
        rw [lastRewrite_snoc, rewrite, Option.none_or] at latest
        have remembered : last.before.lastUpdatedAt = some stamp := by
          rw [remembers.stamp, latest]
          rfl
        rw [signalLog_snoc, actions, told_snoc_sync (foreign stamp remembered)]
        exact remembers.told latest
  | rewrote actions rewrite stamp =>
      constructor
      · rw [lastRewrite_snoc, rewrite, Option.some_or, stamp]
        rfl
      · intro stamp delivered latest
        rw [lastRewrite_snoc, rewrite, Option.some_or] at latest
        cases latest
        rw [signalLog_snoc, actions]
        exact told_snoc_rewrite

theorem remembers_of_run {table : ConfigTable} {file : Option DocumentMut}
    {trace : List SignalTransition} {finish : SyncState}
    (run : Run stepSignal (.start table file) trace finish) :
    Remembers trace finish := by
  refine run.history ⟨rfl, fun latest => by cases latest⟩ ?_
  intro trace state event next actions prior remembers taken
  exact Remembers.step remembers (stepSignal_effect taken)

/--
Every configuration the loop skips is one the Guard was told of exactly when
no stamp is fetched again after a rewrite for it whose signal failed, until
another rewrite.
-/
theorem skips_are_told_iff (table : ConfigTable) (file : Option DocumentMut)
    {trace : List SignalTransition} {finish : SyncState}
    (run : Run stepSignal (.start table file) trace finish) :
    SkipsAreTold trace ↔ NotFetchedUntold trace := by
  constructor
  · rintro told earlier later mark remote rfl fetches untold
    rcases run.transition with ⟨prior, taken, -⟩
    have remembers := remembers_of_run prior
    have same : mark.before.lastUpdatedAt = some remote.updatedAt := by
      rw [remembers.stamp, untold]
      rfl
    have heard := told rfl (skips_of_fetches taken fetches same)
    exact Bool.false_ne_true ((remembers.told untold).mp heard)
  · rintro fetched earlier later mark remote rfl skips
    rcases run.transition with ⟨prior, taken, -⟩
    have remembers := remembers_of_run prior
    rcases fetches_of_skips taken skips with ⟨fetches, same⟩
    rw [remembers.stamp] at same
    rcases Option.map_eq_some_iff.mp same with
      ⟨⟨stamp, delivered⟩, latest, rfl⟩
    cases delivered with
    | false => exact absurd latest (fetched rfl fetches)
    | true => exact (remembers.told latest).mpr rfl

section SmallRuns

open SmallGateway

/-- What the gateway answers as long as nobody writes. -/
def answered : RemoteConfig := ⟨⟨120, 60, []⟩, [⟨clientText, []⟩], [], "1"⟩

/-- Two cycles in a row, the signal of the first one as given. -/
def twoCycles (delivered : Bool) : List SignalEvent :=
  [.cycle (some answered) .written delivered,
    .cycle (some answered) .written true]

theorem skips_are_told_iff_small :
    ∃ trace finish,
      Run stepSignal (.start emptyTable (some ∅)) trace finish ∧
      trace.map Transition.event = twoCycles true ∧ SkipsAreTold trace := by
  have computed : (execute stepSignal (.start emptyTable (some ∅))
      (twoCycles true)).any (fun _ => true) = true := by
    decide +kernel
  rcases exists_run_of_any computed with ⟨trace, finish, run, events, -⟩
  refine ⟨trace, finish, run, events, ?_⟩
  refine (skips_are_told_iff emptyTable (some ∅) run).mpr ?_
  apply notFetchedUntold_of_delivered
  intro transition member answer access failed
  have listed := List.mem_map_of_mem (f := Transition.event) member
  rw [events, failed, twoCycles] at listed
  simp at listed

/-- The signal of the first cycle is lost; the second one skips. -/
theorem lost_sighup_not_repeated :
    ∃ trace finish,
      Run stepSignal (.start emptyTable (some ∅)) trace finish ∧
      trace.map Transition.event = twoCycles false ∧
      ¬ SkipsAreTold trace ∧ .sendSighup true ∉ signalLog trace := by
  have computed : (execute stepSignal (.start emptyTable (some ∅))
      (twoCycles false)).any (fun result =>
        decide (result.1.map Transition.actions =
          [[.sync (.applied answered), .sendSighup false],
            [.sync (.unchanged answered)]])) = true := by
    decide +kernel
  rcases exists_run_of_any computed with
    ⟨trace, finish, run, events, observed⟩
  rw [decide_eq_true_eq] at observed
  rcases trace with _ | ⟨first, _ | ⟨second, rest⟩⟩
  · cases observed
  · simp at observed
  · simp only [List.map_cons, List.cons.injEq, List.map_eq_nil_iff]
      at observed
    rcases observed with ⟨applied, skipped, rfl⟩
    have untold : .sendSighup true ∉ signalLog [first] := by
      simp [signalLog, applied]
    refine ⟨_, finish, run, events, ?_, ?_⟩
    · intro told
      have skips : .sync (.unchanged answered) ∈ second.actions := by
        rw [skipped]
        exact List.mem_singleton.mpr rfl
      have whole : [first, second] = [first] ++ second :: [] := rfl
      rcases told whole skips with ⟨front, signal, back, log, rfl, -⟩
      rw [log] at untold
      exact untold (by simp)
    · simp [signalLog, applied, skipped]

end SmallRuns

end NuxAuth.Gateway
