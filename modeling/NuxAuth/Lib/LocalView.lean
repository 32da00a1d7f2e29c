import Mathlib.Data.List.Basic
import NuxAuth.Lib.RecordedRun

/-!
# What one party sees of a run

A system with many parties is run by one step function.  For one party a
transition is either hidden, and then it leaves the party's view of the state
alone and logs nothing for it, or it is an event of that party, and then the
view moves and the log reads as a machine of the party alone prescribes.

Such a machine determines everything the party observes from its own events:
two runs that present it with the same events show it the same log.
-/

namespace NuxAuth.Lib.LocalView

open NuxAuth.Lib.RecordedRun

universe u v w x y z

variable {State : Type u} {Event : Type v} {Action : Type w} {View : Type x}
    {Local : Type y} {Reaction : Type z}

/-- One party: its view, its events, its log, and the machine that is to
explain them. -/
structure Party (State : Type u) (Event : Type v) (Action : Type w)
    (View : Type x) (Local : Type y) (Reaction : Type z) where
  view : State → View
  event : Transition State Event Action → Option Local
  log : Transition State Event Action → List Reaction
  machine : View → Local → View × List Reaction

namespace Party

/-- The transition is explained by the machine, or hidden. -/
structure Explains (party : Party State Event Action View Local Reaction)
    (transition : Transition State Event Action) : Prop where
  hidden : party.event transition = none →
    party.view transition.after = party.view transition.before ∧
      party.log transition = []
  visible : ∀ happened, party.event transition = some happened →
    party.machine (party.view transition.before) happened =
      (party.view transition.after, party.log transition)

/-- The events of the party in a run, each with its log. -/
def observed (party : Party State Event Action View Local Reaction)
    (trace : List (Transition State Event Action)) :
    List (Local × List Reaction) :=
  trace.filterMap fun transition =>
    (party.event transition).map fun happened =>
      (happened, party.log transition)

/-- What the machine alone answers to a sequence of events. -/
def answers (party : Party State Event Action View Local Reaction) :
    View → List Local → View × List (Local × List Reaction)
  | view, [] => (view, [])
  | view, happened :: rest =>
      let (next, log) := party.machine view happened
      let (last, later) := party.answers next rest
      (last, (happened, log) :: later)

variable {party : Party State Event Action View Local Reaction}

theorem explains_of_hidden {transition : Transition State Event Action}
    (quiet : party.event transition = none)
    (same : party.view transition.after = party.view transition.before)
    (nothing : party.log transition = []) :
    party.Explains transition := by
  refine ⟨fun _ => ⟨same, nothing⟩, ?_⟩
  intro happened shown
  rw [quiet] at shown
  cases shown

theorem explains_of_visible {transition : Transition State Event Action}
    {happened : Local} (shown : party.event transition = some happened)
    (moved : party.machine (party.view transition.before) happened =
      (party.view transition.after, party.log transition)) :
    party.Explains transition := by
  constructor
  · intro quiet
    rw [shown] at quiet
    cases quiet
  · intro other same
    rw [shown] at same
    cases same
    exact moved

theorem answers_append (view : View) (earlier later : List Local) :
    party.answers view (earlier ++ later) =
      ((party.answers (party.answers view earlier).1 later).1,
        (party.answers view earlier).2 ++
          (party.answers (party.answers view earlier).1 later).2) := by
  induction earlier generalizing view with
  | nil => rfl
  | cons happened rest induction =>
      simp only [List.cons_append, answers, induction]

theorem observed_append (earlier later : List (Transition State Event Action)) :
    party.observed (earlier ++ later) =
      party.observed earlier ++ party.observed later :=
  List.filterMap_append

/-- A run whose transitions are explained shows the answers of the machine. -/
theorem observed_of_run {step : Step State Event Action}
    {start finish : State} {trace : List (Transition State Event Action)}
    (run : Run step start trace finish)
    (explained : ∀ transition ∈ trace, party.Explains transition) :
    party.answers (party.view start) (trace.filterMap party.event) =
      (party.view finish, party.observed trace) := by
  induction run with
  | start => rfl
  | snoc prior taken induction =>
      rename_i earlier state event actions next
      have before := induction fun transition member =>
        explained transition (List.mem_append_left _ member)
      have last := explained ⟨state, event, actions, next⟩
        List.mem_concat_self
      rw [List.filterMap_append, answers_append, before, observed_append]
      cases happened : party.event ⟨state, event, actions, next⟩ with
      | none =>
          rcases last.hidden happened with ⟨same, -⟩
          have kept : party.view next = party.view state := same
          simp [observed, happened, answers, kept]
      | some shown =>
          have moved := last.visible shown happened
          simp only at moved
          simp [observed, happened, answers, moved]

/-- The same events from the same view show the same log. -/
theorem observed_eq {step other : Step State Event Action}
    {start finish otherStart otherFinish : State}
    {trace otherTrace : List (Transition State Event Action)}
    (run : Run step start trace finish)
    (otherRun : Run other otherStart otherTrace otherFinish)
    (explained : ∀ transition ∈ trace, party.Explains transition)
    (otherExplained : ∀ transition ∈ otherTrace, party.Explains transition)
    (sameView : party.view start = party.view otherStart)
    (sameEvents : trace.filterMap party.event =
      otherTrace.filterMap party.event) :
    party.observed trace = party.observed otherTrace := by
  have first := observed_of_run run explained
  have second := observed_of_run otherRun otherExplained
  rw [sameView, sameEvents, second] at first
  exact (congrArg Prod.snd first).symm

end Party

/-! ## One element of a filtered list -/

section Filtered

variable {Element : Type u} {Shown : Type v}

/-- The position of an element among those that are shown. -/
def rank (keep : Element → Option Shown) (elements : List Element)
    (index : Nat) : Nat :=
  ((elements.take index).filterMap keep).length

variable {keep : Element → Option Shown} {elements : List Element}
    {index : Nat} {element : Element} {shown : Shown}

theorem getElem?_rank (here : elements[index]? = some element)
    (kept : keep element = some shown) :
    (elements.filterMap keep)[rank keep elements index]? = some shown := by
  rcases split_at here with ⟨front, back, rfl, rfl⟩
  rw [rank, List.take_left, List.filterMap_append,
    List.filterMap_cons_some kept, List.getElem?_append_right (Nat.le_refl _),
    Nat.sub_self]
  rfl

/-- Changing an element that is shown changes what is shown at its rank. -/
theorem filterMap_set (here : elements[index]? = some element)
    (kept : keep element = some shown) {new : Element} {newShown : Shown}
    (newKept : keep new = some newShown) :
    (elements.set index new).filterMap keep =
      (elements.filterMap keep).set (rank keep elements index) newShown := by
  rcases split_at here with ⟨front, back, rfl, rfl⟩
  rw [rank, List.take_left, List.set_append_right _ _ (Nat.le_refl _), Nat.sub_self,
    List.set_cons_zero, List.filterMap_append, List.filterMap_append,
    List.filterMap_cons_some kept, List.filterMap_cons_some newKept,
    List.set_append_right _ _ (Nat.le_refl _), Nat.sub_self, List.set_cons_zero]

/-- Changing an element that stays hidden shows nothing. -/
theorem filterMap_set_hidden (here : elements[index]? = some element)
    (hidden : keep element = none) {new : Element}
    (newHidden : keep new = none) :
    (elements.set index new).filterMap keep = elements.filterMap keep := by
  rcases split_at here with ⟨front, back, rfl, rfl⟩
  rw [List.set_append_right _ _ (Nat.le_refl _), Nat.sub_self, List.set_cons_zero,
    List.filterMap_append, List.filterMap_append,
    List.filterMap_cons_none hidden, List.filterMap_cons_none newHidden]

/-- Hiding one element takes it away at its rank. -/
theorem filterMap_hide (distinct : elements.Nodup)
    (here : elements[index]? = some element)
    (kept : keep element = some shown) {after : Element → Option Shown}
    (hidden : after element = none)
    (same : ∀ other ∈ elements, other ≠ element → after other = keep other) :
    elements.filterMap after =
      (elements.filterMap keep).eraseIdx (rank keep elements index) := by
  rcases split_at here with ⟨front, back, rfl, rfl⟩
  rw [List.nodup_append] at distinct
  rcases distinct with ⟨-, tail, apart⟩
  have inFront : front.filterMap after = front.filterMap keep := by
    apply List.filterMap_congr
    intro other member
    exact same other (List.mem_append_left _ member)
      (apart other member element List.mem_cons_self)
  have inBack : back.filterMap after = back.filterMap keep := by
    apply List.filterMap_congr
    intro other member
    refine same other (List.mem_append_right _ (List.mem_cons_of_mem _ member))
      ?_
    rintro rfl
    exact (List.nodup_cons.mp tail).1 member
  rw [rank, List.take_left, List.filterMap_append, List.filterMap_append,
    List.filterMap_cons_some kept, List.filterMap_cons_none hidden, inFront,
    inBack, List.eraseIdx_append_of_length_le (Nat.le_refl _), Nat.sub_self]
  rfl

end Filtered

end NuxAuth.Lib.LocalView
