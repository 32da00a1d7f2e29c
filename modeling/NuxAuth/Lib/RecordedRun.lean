import Mathlib.Data.List.Induction

/-!
# Recorded runs of a partial step function

A step function maps a state and an event to the next state and a log of
actions, or to nothing when the event cannot occur.  A recorded run keeps every
transition it took, so that a statement about the past of a state is a
statement about a list.

The past-time operator `Since opened closed` says that some earlier transition
opened an obligation and no later one closed it.  Invariants of the state,
invariants of the state together with its past, and the `Since` facts are all
proved by the same induction: the last transition is split off.
-/

namespace NuxAuth.Lib.RecordedRun

universe u v w

variable {State : Type u} {Event : Type v} {Action : Type w}

/-- One transition: where it began, its event, what it logged, where it led. -/
structure Transition (State : Type u) (Event : Type v) (Action : Type w) where
  before : State
  event : Event
  actions : List Action
  after : State

/-- A partial deterministic step function; `none` where the event is disabled. -/
abbrev Step (State : Type u) (Event : Type v) (Action : Type w) :=
  State → Event → Option (State × List Action)

/-- The transitions taken from `start`, oldest first, and the state reached. -/
inductive Run (step : Step State Event Action) (start : State) :
    List (Transition State Event Action) → State → Prop where
  | start : Run step start [] start
  | snoc {trace : List (Transition State Event Action)} {state : State}
      {event : Event} {actions : List Action} {next : State}
      (prior : Run step start trace state)
      (taken : step state event = some (next, actions)) :
      Run step start (trace ++ [⟨state, event, actions, next⟩]) next

variable {step : Step State Event Action} {start finish : State}

/-! ## Invariant rules -/

/-- An inductive invariant holds in every reached state. -/
theorem Run.invariant
    {trace : List (Transition State Event Action)}
    (run : Run step start trace finish)
    {Inv : State → Prop}
    (initial : Inv start)
    (preserved : ∀ state event next actions,
      Inv state → step state event = some (next, actions) → Inv next) :
    Inv finish := by
  induction run with
  | start => exact initial
  | snoc prior taken induction =>
      exact preserved _ _ _ _ induction taken

/-- The invariant rule for a property of the state and its recorded past. -/
theorem Run.history
    {trace : List (Transition State Event Action)}
    (run : Run step start trace finish)
    {Inv : List (Transition State Event Action) → State → Prop}
    (initial : Inv [] start)
    (preserved : ∀ trace state event next actions,
      Run step start trace state → Inv trace state →
        step state event = some (next, actions) →
          Inv (trace ++ [⟨state, event, actions, next⟩]) next) :
    Inv trace finish := by
  induction run with
  | start => exact initial
  | snoc prior taken induction =>
      exact preserved _ _ _ _ _ prior induction taken

/-! ## Taking runs apart and putting them together -/

/-- A position of a list, with what stands before and after it. -/
theorem split_at {Element : Type u} {elements : List Element} {index : Nat}
    {element : Element} (here : elements[index]? = some element) :
    ∃ front back, elements = front ++ element :: back ∧
      front.length = index := by
  rcases List.getElem?_eq_some_iff.mp here with ⟨within, same⟩
  refine ⟨elements.take index, elements.drop (index + 1), ?_,
    List.length_take_of_le (Nat.le_of_lt within)⟩
  rw [← same, List.getElem_cons_drop, List.take_append_drop]

/-- The last transition of a run and the run before it. -/
theorem Run.snoc_inv
    {trace : List (Transition State Event Action)}
    {last : Transition State Event Action}
    (run : Run step start (trace ++ [last]) finish) :
    Run step start trace last.before ∧
      step last.before last.event = some (last.after, last.actions) ∧
        last.after = finish := by
  generalize whole : trace ++ [last] = full at run
  cases run with
  | start => simp at whole
  | snoc prior taken =>
      obtain ⟨sameTrace, sameLast⟩ := List.append_inj' whole rfl
      simp only [List.cons.injEq, and_true] at sameLast
      subst sameTrace
      subst sameLast
      exact ⟨prior, taken, rfl⟩

theorem Run.append
    {earlier later : List (Transition State Event Action)}
    {middle : State}
    (first : Run step start earlier middle)
    (second : Run step middle later finish) :
    Run step start (earlier ++ later) finish := by
  induction second with
  | start => simpa using first
  | snoc prior taken induction =>
      rw [← List.append_assoc]
      exact induction.snoc taken

theorem Run.split
    {earlier later : List (Transition State Event Action)}
    (run : Run step start (earlier ++ later) finish) :
    ∃ middle, Run step start earlier middle ∧
      Run step middle later finish := by
  induction later using List.reverseRecOn generalizing finish with
  | nil => exact ⟨finish, by simpa using run, .start⟩
  | append_singleton later last induction =>
      rw [← List.append_assoc] at run
      obtain ⟨prior, taken, rfl⟩ := run.snoc_inv
      obtain ⟨middle, first, second⟩ := induction prior
      exact ⟨middle, first, second.snoc taken⟩

theorem Run.cons
    {event : Event} {actions : List Action} {next : State}
    {trace : List (Transition State Event Action)}
    (taken : step start event = some (next, actions))
    (rest : Run step next trace finish) :
    Run step start (⟨start, event, actions, next⟩ :: trace) finish :=
  Run.append (Run.snoc .start taken) rest

theorem Run.cons_inv
    {first : Transition State Event Action}
    {trace : List (Transition State Event Action)}
    (run : Run step start (first :: trace) finish) :
    first.before = start ∧
      step first.before first.event = some (first.after, first.actions) ∧
        Run step first.after trace finish := by
  have whole : Run step start ([first] ++ trace) finish := run
  rcases whole.split with ⟨middle, one, rest⟩
  have single : Run step start ([] ++ [first]) middle := one
  rcases single.snoc_inv with ⟨nothing, taken, rfl⟩
  generalize empty : ([] : List (Transition State Event Action)) = none
    at nothing
  cases nothing with
  | start => exact ⟨rfl, taken, rest⟩
  | snoc prior taken => simp at empty

/-- A transition inside a run: the run that led to it and the run after it. -/
theorem Run.transition
    {earlier later : List (Transition State Event Action)}
    {mark : Transition State Event Action}
    (run : Run step start (earlier ++ mark :: later) finish) :
    Run step start earlier mark.before ∧
      step mark.before mark.event = some (mark.after, mark.actions) ∧
        Run step mark.after later finish := by
  obtain ⟨middle, first, second⟩ := run.split
  obtain ⟨same, taken, rest⟩ := second.cons_inv
  exact ⟨same ▸ first, taken, rest⟩

/-- Two marked positions of one list: the second after, at or before the
first. -/
theorem append_cons_eq_append_cons_cases {Element : Type u}
    {front back earlier later : List Element} {first second : Element}
    (same : front ++ first :: back = earlier ++ second :: later) :
    (∃ between, earlier = front ++ first :: between ∧
        back = between ++ second :: later) ∨
      first = second ∨
        ∃ between, front = earlier ++ second :: between := by
  rcases List.append_eq_append_iff.mp same with
    ⟨between, rfl, whole⟩ | ⟨between, rfl, whole⟩
  · cases between with
    | nil => exact Or.inr (Or.inl (List.cons.inj whole).1)
    | cons head between =>
        cases whole
        exact Or.inl ⟨between, rfl, rfl⟩
  · cases between with
    | nil => exact Or.inr (Or.inl (List.cons.inj whole).1.symm)
    | cons head between =>
        cases whole
        exact Or.inr (Or.inr ⟨between, rfl⟩)

/-! ## Computing a run -/

/-- Run the listed events in order; `none` as soon as one is disabled. -/
def execute (step : Step State Event Action) :
    State → List Event →
      Option (List (Transition State Event Action) × State)
  | state, [] => some ([], state)
  | state, event :: rest =>
      match step state event with
      | none => none
      | some (next, actions) =>
          match execute step next rest with
          | none => none
          | some (trace, finish) =>
              some (⟨state, event, actions, next⟩ :: trace, finish)

/-- What `execute` returns is a run. -/
theorem run_of_execute
    {events : List Event}
    {trace : List (Transition State Event Action)}
    (computed : execute step start events = some (trace, finish)) :
    Run step start trace finish := by
  induction events generalizing start trace with
  | nil =>
      simp only [execute, Option.some.injEq, Prod.mk.injEq] at computed
      obtain ⟨rfl, rfl⟩ := computed
      exact .start
  | cons event rest induction =>
      rw [execute] at computed
      split at computed
      · contradiction
      · rename_i next actions taken
        split at computed
        · contradiction
        · rename_i tail last restComputed
          simp only [Option.some.injEq, Prod.mk.injEq] at computed
          obtain ⟨rfl, rfl⟩ := computed
          exact Run.cons taken (induction restComputed)

/-- A computed run takes the listed events, in order. -/
theorem events_of_execute
    {events : List Event}
    {trace : List (Transition State Event Action)}
    (computed : execute step start events = some (trace, finish)) :
    trace.map Transition.event = events := by
  induction events generalizing start trace with
  | nil =>
      simp only [execute, Option.some.injEq, Prod.mk.injEq] at computed
      rcases computed with ⟨rfl, -⟩
      rfl
  | cons event rest induction =>
      rw [execute] at computed
      split at computed
      · cases computed
      · rename_i next actions taken
        split at computed
        · cases computed
        · rename_i tail last restComputed
          cases computed
          rw [List.map_cons, induction restComputed]

/-- A computation that passes a test is a run that passes it. -/
theorem exists_run_of_any
    {events : List Event}
    {test : List (Transition State Event Action) × State → Bool}
    (computed : (execute step start events).any test = true) :
    ∃ trace finish, Run step start trace finish ∧
      trace.map Transition.event = events ∧ test (trace, finish) = true := by
  rcases result : execute step start events with _ | ⟨trace, finish⟩
  · rw [result] at computed
    cases computed
  · rw [result] at computed
    exact ⟨trace, finish, run_of_execute result, events_of_execute result,
      computed⟩

/-! ## Playing against an environment -/

/-- What an observer sees of a transition. -/
def Transition.seen (transition : Transition State Event Action) :
    Event × List Action :=
  (transition.event, transition.actions)

/-- The environment picks every event from what it saw; a disabled one leaves
the play where it is. -/
def play (step : Step State Event Action)
    (environment : List (Event × List Action) → Event) (start : State) :
    Nat → List (Transition State Event Action) × State
  | 0 => ([], start)
  | rounds + 1 =>
      let (trace, state) := play step environment start rounds
      let event := environment (trace.map Transition.seen)
      match step state event with
      | none => (trace, state)
      | some (next, actions) =>
          (trace ++ [⟨state, event, actions, next⟩], next)

theorem run_of_play (step : Step State Event Action)
    (environment : List (Event × List Action) → Event) (start : State)
    (rounds : Nat) :
    Run step start (play step environment start rounds).1
      (play step environment start rounds).2 := by
  induction rounds with
  | zero => exact .start
  | succ rounds induction =>
      simp only [play]
      split
      · exact induction
      · rename_i taken
        exact induction.snoc taken

/-! ## Refinement by finer steps -/

/-- Some run leads from one state to the other and logs these actions. -/
def Logs (step : Step State Event Action) (start : State)
    (actions : List Action) (finish : State) : Prop :=
  ∃ trace, Run step start trace finish ∧
    trace.flatMap Transition.actions = actions

theorem Logs.refl (state : State) : Logs step state [] state :=
  ⟨[], .start, rfl⟩

theorem Logs.cons {event : Event} {first rest : List Action} {next : State}
    (taken : step start event = some (next, first))
    (later : Logs step next rest finish) :
    Logs step start (first ++ rest) finish := by
  rcases later with ⟨trace, run, rfl⟩
  exact ⟨_, Run.cons taken run, rfl⟩

theorem Logs.one {event : Event} {actions : List Action}
    (taken : step start event = some (finish, actions)) :
    Logs step start actions finish := by
  have once : Logs step start (actions ++ []) finish :=
    Logs.cons taken (Logs.refl finish)
  rwa [List.append_nil] at once

theorem Logs.append {first second : List Action} {middle : State}
    (earlier : Logs step start first middle)
    (later : Logs step middle second finish) :
    Logs step start (first ++ second) finish := by
  rcases earlier with ⟨front, run, rfl⟩
  rcases later with ⟨back, next, rfl⟩
  exact ⟨front ++ back, run.append next, List.flatMap_append⟩

/-- When every coarse step is logged by finer steps, so is every run. -/
theorem Run.refine {Fine : Type u} {Tick : Type v}
    {fine : Step Fine Tick Action} {embed : State → Fine}
    {trace : List (Transition State Event Action)}
    (run : Run step start trace finish)
    (refined : ∀ state event next actions,
      step state event = some (next, actions) →
        Logs fine (embed state) actions (embed next)) :
    Logs fine (embed start) (trace.flatMap Transition.actions)
      (embed finish) := by
  induction run with
  | start => exact Logs.refl _
  | snoc prior taken induction =>
      rw [List.flatMap_append, List.flatMap_singleton]
      exact induction.append (refined _ _ _ _ taken)

/-! ## A part of the system, and another labelling -/

section Part

variable {Part : Type u} {Tick : Type v} {Answer : Type w}

/-- A transition leaves the part alone, or it is the call that is given of it. -/
structure Projects (part : Step Part Tick Answer) (view : State → Part)
    (call : Transition State Event Action → Option (Transition Part Tick Answer))
    (transition : Transition State Event Action) : Prop where
  hidden : call transition = none →
    view transition.after = view transition.before
  visible : ∀ made, call transition = some made →
    made.before = view transition.before ∧
      made.after = view transition.after ∧
        part made.before made.event = some (made.after, made.actions)

/-- The calls of a run are a run of the part. -/
theorem Run.project {part : Step Part Tick Answer} {view : State → Part}
    {call : Transition State Event Action →
      Option (Transition Part Tick Answer)}
    {trace : List (Transition State Event Action)}
    (run : Run step start trace finish)
    (projects : ∀ state event next actions,
      step state event = some (next, actions) →
        Projects part view call ⟨state, event, actions, next⟩) :
    Run part (view start) (trace.filterMap call) (view finish) := by
  induction run with
  | start => exact .start
  | snoc prior taken induction =>
      have last := projects _ _ _ _ taken
      rw [List.filterMap_append]
      cases made : call _ with
      | none =>
          have same := last.hidden made
          dsimp only at same
          rw [List.filterMap_cons_none made, List.filterMap_nil,
            List.append_nil, same]
          exact induction
      | some done =>
          rcases last.visible done made with ⟨before, after, moved⟩
          rcases done with ⟨first, tick, answers, second⟩
          dsimp only at before after moved
          subst before
          subst after
          rw [List.filterMap_cons_some made, List.filterMap_nil]
          exact induction.snoc moved

end Part

/--
Some element satisfied `opened` and nothing after it satisfied `closed`.
-/
def Since {Element : Type u} (opened closed : Element → Prop)
    (trace : List Element) : Prop :=
  ∃ earlier mark later,
    trace = earlier ++ mark :: later ∧ opened mark ∧
      ∀ element ∈ later, ¬ closed element

variable {Element : Type u} {opened closed : Element → Prop}
    {trace : List Element} {last : Element}

theorem Since.now (now : opened last) :
    Since opened closed (trace ++ [last]) :=
  ⟨trace, last, [], rfl, now, by simp⟩

theorem Since.kept
    (before : Since opened closed trace) (still : ¬ closed last) :
    Since opened closed (trace ++ [last]) := by
  obtain ⟨earlier, mark, later, rfl, atMark, after⟩ := before
  refine ⟨earlier, mark, later ++ [last], by simp, atMark, ?_⟩
  intro element member
  rcases List.mem_append.mp member with old | new
  · exact after element old
  · rw [List.mem_singleton.mp new]
    exact still

/-- `Since` decomposes along the last element. -/
theorem since_snoc_iff :
    Since opened closed (trace ++ [last]) ↔
      opened last ∨ (Since opened closed trace ∧ ¬ closed last) := by
  constructor
  · rintro ⟨earlier, mark, later, whole, atMark, after⟩
    rcases List.eq_nil_or_concat later with rfl | ⟨front, final, rfl⟩
    · obtain ⟨-, same⟩ := List.append_inj' whole rfl
      simp only [List.cons.injEq, and_true] at same
      exact Or.inl (same ▸ atMark)
    · rw [List.concat_eq_append] at whole after
      rw [← List.cons_append, ← List.append_assoc] at whole
      obtain ⟨rfl, same⟩ := List.append_inj' whole rfl
      simp only [List.cons.injEq, and_true] at same
      subst same
      refine Or.inr ⟨⟨earlier, mark, front, rfl, atMark, ?_⟩, ?_⟩
      · intro element member
        exact after element (List.mem_append_left _ member)
      · exact after last (by simp)
  · rintro (now | ⟨before, still⟩)
    · exact Since.now now
    · exact before.kept still

end NuxAuth.Lib.RecordedRun
