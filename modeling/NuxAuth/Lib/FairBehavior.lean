import Mathlib.Logic.Function.Iterate
import Mathlib.Data.Nat.Init
import NuxAuth.Lib.RecordedRun

/-!
# Infinite behaviors and weak fairness

A behavior takes a transition of a step function at every moment.  It is weakly
fair to a kind of transition if that kind is not enabled for ever without being
taken.  A state property that is kept until a fair transition is taken leads to
what that transition brings about.
-/

namespace NuxAuth.Lib.FairBehavior

open NuxAuth.Lib.RecordedRun

universe u v w

variable {State : Type u} {Event : Type v} {Action : Type w}

/-- A run that never ends. -/
structure Behavior (step : Step State Event Action) where
  state : Nat → State
  event : Nat → Event
  actions : Nat → List Action
  taken : ∀ moment,
    step (state moment) (event moment) =
      some (state (moment + 1), actions moment)

variable {step : Step State Event Action}

/-- The kind of transition `Taken` is taken if `Enabled` holds for ever. -/
def WeaklyFair (behavior : Behavior step) (Enabled : State → Prop)
    (Taken : Event → Prop) : Prop :=
  ∀ moment, (∀ later, moment ≤ later → Enabled (behavior.state later)) →
    ∃ later, moment ≤ later ∧ Taken (behavior.event later)

theorem WeaklyFair.weaken {behavior : Behavior step}
    {Enabled Narrower : State → Prop} {Taken : Event → Prop}
    (fair : WeaklyFair behavior Enabled Taken)
    (narrower : ∀ state, Narrower state → Enabled state) :
    WeaklyFair behavior Narrower Taken := by
  intro moment always
  exact fair moment fun later after => narrower _ (always later after)

/-- Whenever the first holds, the second holds then or later. -/
def LeadsTo (behavior : Behavior step) (Before After : State → Prop) : Prop :=
  ∀ moment, Before (behavior.state moment) →
    ∃ later, moment ≤ later ∧ After (behavior.state later)

theorem LeadsTo.trans {behavior : Behavior step}
    {Before Middle After : State → Prop}
    (first : LeadsTo behavior Before Middle)
    (second : LeadsTo behavior Middle After) :
    LeadsTo behavior Before After := by
  intro moment here
  rcases first moment here with ⟨middle, laterMiddle, atMiddle⟩
  rcases second middle atMiddle with ⟨later, laterAfter, atAfter⟩
  exact ⟨later, Nat.le_trans laterMiddle laterAfter, atAfter⟩

/-- It is enough to lead on from each of the alternatives. -/
theorem LeadsTo.ofExists {behavior : Behavior step} {Index : Type}
    {Before : Index → State → Prop} {After : State → Prop}
    (each : ∀ index, LeadsTo behavior (Before index) After) :
    LeadsTo behavior (fun state => ∃ index, Before index state) After := by
  rintro moment ⟨index, here⟩
  exact each index moment here

/--
The rule of weak fairness: the property is kept by transitions of other kinds,
until what it should lead to holds.
-/
theorem leadsTo_of_weaklyFair {behavior : Behavior step}
    {Before After : State → Prop} {Taken : Event → Prop}
    (fair : WeaklyFair behavior Before Taken)
    (progress : ∀ moment, Before (behavior.state moment) →
      (Before (behavior.state (moment + 1)) ∧
          ¬ Taken (behavior.event moment)) ∨
        After (behavior.state (moment + 1))) :
    LeadsTo behavior Before After := by
  intro moment here
  by_contra never
  have step : ∀ later, moment ≤ later → Before (behavior.state later) →
      Before (behavior.state (later + 1)) ∧
        ¬ Taken (behavior.event later) := by
    intro later after before
    rcases progress later before with still | reached
    · exact still
    · exact absurd ⟨later + 1, Nat.le_succ_of_le after, reached⟩ never
  have stays : ∀ later, moment ≤ later → Before (behavior.state later) := by
    intro later after
    induction later, after using Nat.le_induction with
    | base => exact here
    | succ later after induction => exact (step later after induction).1
  rcases fair moment stays with ⟨later, after, takes⟩
  exact (step later after (stays later after)).2 takes

/-- A scheduler that always picks an enabled event defines a behavior. -/
def ofScheduler (next : State → State) (pick : State → Event)
    (log : State → List Action) (Inv : State → Prop)
    (enabled : ∀ state, Inv state →
      step state (pick state) = some (next state, log state) ∧
        Inv (next state))
    (start : State) (initial : Inv start) : Behavior step where
  state moment := next^[moment] start
  event moment := pick (next^[moment] start)
  actions moment := log (next^[moment] start)
  taken := by
    have always : ∀ moment, Inv (next^[moment] start) := by
      intro moment
      induction moment with
      | zero => exact initial
      | succ moment induction =>
          rw [Function.iterate_succ_apply']
          exact (enabled _ induction).2
    intro moment
    rw [Function.iterate_succ_apply']
    exact (enabled _ (always moment)).1

/-- The state a scheduler leads to, if the event it picks is enabled. -/
def nextOf (step : Step State Event Action) (pick : State → Event)
    (state : State) : State :=
  match step state (pick state) with
  | some (next, _) => next
  | none => state

/-- What that step logs. -/
def logOf (step : Step State Event Action) (pick : State → Event)
    (state : State) : List Action :=
  match step state (pick state) with
  | some (_, actions) => actions
  | none => []

/-- A scheduler is given by its picks alone. -/
def ofPick (step : Step State Event Action) (pick : State → Event)
    (Inv : State → Prop)
    (enabled : ∀ state, Inv state →
      ∃ next actions, step state (pick state) = some (next, actions) ∧
        Inv next)
    (start : State) (initial : Inv start) : Behavior step :=
  ofScheduler (nextOf step pick) pick (logOf step pick) Inv
    (fun state inv => by
      rcases enabled state inv with ⟨next, actions, taken, kept⟩
      rw [nextOf, logOf, taken]
      exact ⟨rfl, kept⟩)
    start initial

/-! ## Ranks, later behaviors and parts -/

theorem LeadsTo.mono {behavior : Behavior step}
    {Before Narrower After Wider : State → Prop}
    (leads : LeadsTo behavior Before After)
    (narrower : ∀ state, Narrower state → Before state)
    (wider : ∀ state, After state → Wider state) :
    LeadsTo behavior Narrower Wider := by
  intro moment here
  rcases leads moment (narrower _ here) with ⟨later, since, there⟩
  exact ⟨later, since, wider _ there⟩

theorem LeadsTo.refl (behavior : Behavior step) (Here : State → Prop) :
    LeadsTo behavior Here Here :=
  fun moment here => ⟨moment, Nat.le_refl _, here⟩

/-- Either of two ways leads on. -/
theorem LeadsTo.or {behavior : Behavior step}
    {First Second After : State → Prop}
    (first : LeadsTo behavior First After)
    (second : LeadsTo behavior Second After) :
    LeadsTo behavior (fun state => First state ∨ Second state) After := by
  rintro moment (here | here)
  · exact first moment here
  · exact second moment here

/-- What is reached is reached with a property that is kept meanwhile, unless
that is given up for something else. -/
theorem LeadsTo.unless {behavior : Behavior step}
    {Before After Stays Escapes : State → Prop}
    (leads : LeadsTo behavior Before After)
    (kept : ∀ moment, Stays (behavior.state moment) →
      Stays (behavior.state (moment + 1)) ∨
        Escapes (behavior.state (moment + 1))) :
    LeadsTo behavior (fun state => Before state ∧ Stays state)
      (fun state => (After state ∧ Stays state) ∨ Escapes state) := by
  rintro moment ⟨here, stays⟩
  rcases leads moment here with ⟨later, since, reached⟩
  have meanwhile : Stays (behavior.state later) ∨
      ∃ escape, moment ≤ escape ∧ Escapes (behavior.state escape) := by
    clear reached
    induction later, since using Nat.le_induction with
    | base => exact Or.inl stays
    | succ later since induction =>
        rcases induction with still | escaped
        · rcases kept later still with again | escapes
          · exact Or.inl again
          · exact Or.inr ⟨later + 1, Nat.le_succ_of_le since, escapes⟩
        · exact Or.inr escaped
  rcases meanwhile with still | ⟨escape, after, escapes⟩
  · exact ⟨later, since, Or.inl ⟨reached, still⟩⟩
  · exact ⟨escape, after, Or.inr escapes⟩

/-- A rank that is left for a smaller one until the goal is reached. -/
theorem LeadsTo.ofRank {behavior : Behavior step}
    {Before : Nat → State → Prop} {After : State → Prop}
    (lowers : ∀ rank, LeadsTo behavior (Before rank) fun state =>
      (∃ smaller, smaller < rank ∧ Before smaller state) ∨ After state) :
    LeadsTo behavior (fun state => ∃ rank, Before rank state) After := by
  rintro moment ⟨rank, here⟩
  induction rank using Nat.strong_induction_on generalizing moment with
  | _ rank induction =>
      rcases lowers rank moment here with
        ⟨middle, laterMiddle, ⟨smaller, less, there⟩ | reached⟩
      · rcases induction smaller less middle there with
          ⟨later, since, reached⟩
        exact ⟨later, Nat.le_trans laterMiddle since, reached⟩
      · exact ⟨middle, laterMiddle, reached⟩

/-- The same behavior from a later moment on. -/
def Behavior.onward (behavior : Behavior step) (start : Nat) :
    Behavior step where
  state moment := behavior.state (start + moment)
  event moment := behavior.event (start + moment)
  actions moment := behavior.actions (start + moment)
  taken moment := behavior.taken (start + moment)

theorem WeaklyFair.onward {behavior : Behavior step}
    {Enabled : State → Prop} {Taken : Event → Prop}
    (fair : WeaklyFair behavior Enabled Taken) (start : Nat) :
    WeaklyFair (behavior.onward start) Enabled Taken := by
  intro moment always
  have enabled : ∀ later, start + moment ≤ later →
      Enabled (behavior.state later) := by
    intro later after
    have here := always (later - start) (by omega)
    have same : start + (later - start) = later := by omega
    simpa only [Behavior.onward, same] using here
  rcases fair (start + moment) enabled with ⟨later, after, takes⟩
  refine ⟨later - start, by omega, ?_⟩
  have same : start + (later - start) = later := by omega
  simpa only [Behavior.onward, same] using takes

/-- What a property that is reached and kept is from then on. -/
theorem LeadsTo.always {behavior : Behavior step}
    {Before After : State → Prop} (leads : LeadsTo behavior Before After)
    (kept : ∀ moment, After (behavior.state moment) →
      After (behavior.state (moment + 1)))
    {moment : Nat} (here : Before (behavior.state moment)) :
    ∃ settled, moment ≤ settled ∧
      ∀ later, settled ≤ later → After (behavior.state later) := by
  rcases leads moment here with ⟨settled, since, reached⟩
  refine ⟨settled, since, fun later after => ?_⟩
  induction later, after using Nat.le_induction with
  | base => exact reached
  | succ later after induction => exact kept later induction

/-- The behavior of a part of the system. -/
def Behavior.project {Part : Type u} {Tick : Type v} {Answer : Type w}
    {part : Step Part Tick Answer} (behavior : Behavior step)
    (view : State → Part) (tick : Nat → Tick) (answers : Nat → List Answer)
    (moves : ∀ moment, part (view (behavior.state moment)) (tick moment) =
      some (view (behavior.state (moment + 1)), answers moment)) :
    Behavior part where
  state moment := view (behavior.state moment)
  event := tick
  actions := answers
  taken := moves

/-! ## A run that comes to rest -/

/-- The behavior takes the run and stays where it leads. -/
structure RestsAfter (behavior : Behavior step)
    (taken : List (Transition State Event Action)) (finish : State)
    (idle : Event) : Prop where
  ran : ∀ moment transition, taken[moment]? = some transition →
    behavior.state moment = transition.before ∧
      behavior.event moment = transition.event
  rests : ∀ moment, taken.length ≤ moment →
    behavior.state moment = finish ∧ behavior.event moment = idle

private theorem finish_of_nil {start finish : State}
    (run : Run step start [] finish) : finish = start := by
  generalize empty : ([] : List (Transition State Event Action)) = taken
    at run
  cases run with
  | start => rfl
  | snoc prior stepped => simp at empty

/-- An event that changes nothing continues a run for ever. -/
theorem exists_restsAfter {start finish : State} {idle : Event}
    {taken : List (Transition State Event Action)}
    (run : Run step start taken finish)
    (idles : step finish idle = some (finish, [])) :
    ∃ behavior : Behavior step, behavior.state 0 = start ∧
      RestsAfter behavior taken finish idle := by
  let state : Nat → State := fun moment =>
    (taken[moment]?.map Transition.before).getD finish
  let event : Nat → Event := fun moment =>
    (taken[moment]?.map Transition.event).getD idle
  let actions : Nat → List Action := fun moment =>
    (taken[moment]?.map Transition.actions).getD []
  have rests : ∀ moment, taken.length ≤ moment → state moment = finish ∧
      event moment = idle ∧ actions moment = [] := by
    intro moment past
    simp [state, event, actions, List.getElem?_eq_none past]
  have moves : ∀ moment, step (state moment) (event moment) =
      some (state (moment + 1), actions moment) := by
    intro moment
    cases here : taken[moment]? with
    | none =>
        have past := List.getElem?_eq_none_iff.mp here
        rcases rests moment past with ⟨sameState, sameEvent, sameActions⟩
        rw [sameState, sameEvent, sameActions,
          (rests (moment + 1) (Nat.le_succ_of_le past)).1]
        exact idles
    | some transition =>
        rcases split_at here with ⟨front, back, rfl, rfl⟩
        rcases run.transition with ⟨-, stepped, rest⟩
        have next : state (front.length + 1) = transition.after := by
          cases back with
          | nil => simp [state, finish_of_nil rest]
          | cons second later =>
              have same := rest.cons_inv.1
              simp [state, same]
        simp only [next]
        simpa [state, event, actions] using stepped
  refine ⟨⟨state, event, actions, moves⟩, ?_, ?_, ?_⟩
  · cases taken with
    | nil => exact finish_of_nil run
    | cons first rest => exact run.cons_inv.1
  · intro moment transition here
    simp [state, event, here]
  · intro moment past
    exact ⟨(rests moment past).1, (rests moment past).2.1⟩

/-- Where nothing more is enabled, nothing is owed. -/
theorem RestsAfter.weaklyFair {behavior : Behavior step} {finish : State}
    {taken : List (Transition State Event Action)} {idle : Event}
    (rests : RestsAfter behavior taken finish idle)
    {Enabled : State → Prop} {Taken : Event → Prop}
    (disabled : ¬ Enabled finish) : WeaklyFair behavior Enabled Taken := by
  intro moment always
  have late := always (max moment taken.length) (Nat.le_max_left _ _)
  rw [(rests.rests _ (Nat.le_max_right _ _)).1] at late
  exact absurd late disabled

end NuxAuth.Lib.FairBehavior
