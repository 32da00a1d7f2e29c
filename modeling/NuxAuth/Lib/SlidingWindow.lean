import Mathlib.Data.Finset.Card
import Mathlib.Data.Finset.Dedup
import Mathlib.Data.List.Sort

/-!
# Admissions in a sliding window

A log keeps every admission with its key and its instant, oldest first, and
never forgets.  Seen from an instant `now`, an admission is recent if it is at
most `window` old.  What a limiter may decide on is how many recent admissions
a key has, and how many keys have any.

`Throttled` says of a log that each admission, when it was made, found fewer
than `cap` recent ones of its key; then no closed interval as long as the window
holds more than `cap` of them.
-/

namespace NuxAuth.Lib.SlidingWindow

universe u

/-- One admission of a key at an instant. -/
structure Admission (Key : Type u) where
  key : Key
  instant : Nat
deriving DecidableEq

variable {Key : Type u} [DecidableEq Key]

/-- The instants at which the key was admitted. -/
def instants (log : List (Admission Key)) (key : Key) : List Nat :=
  (log.filter fun entry => entry.key = key).map Admission.instant

/-- How many recent admissions the key has. -/
def recent (window now : Nat) (log : List (Admission Key)) (key : Key) : Nat :=
  log.countP fun entry => entry.key = key ∧ now - entry.instant ≤ window

/-- The keys with a recent admission. -/
def activeKeys (window now : Nat) (log : List (Admission Key)) : Finset Key :=
  ((log.filter fun entry => now - entry.instant ≤ window).map
    Admission.key).toFinset

theorem instants_append (front back : List (Admission Key)) (key : Key) :
    instants (front ++ back) key = instants front key ++ instants back key := by
  simp [instants]

theorem mem_instants_iff {log : List (Admission Key)} {key : Key}
    {instant : Nat} :
    instant ∈ instants log key ↔ ⟨key, instant⟩ ∈ log := by
  simp only [instants, List.mem_map, List.mem_filter, decide_eq_true_eq]
  constructor
  · rintro ⟨⟨_, _⟩, ⟨member, rfl⟩, rfl⟩
    exact member
  · intro member
    exact ⟨⟨key, instant⟩, ⟨member, rfl⟩, rfl⟩

theorem recent_eq_length (window now : Nat) (log : List (Admission Key))
    (key : Key) :
    recent window now log key =
      ((instants log key).filter fun instant =>
        now - instant ≤ window).length := by
  rw [recent, instants, List.filter_map, List.length_map, List.filter_filter,
    List.countP_eq_length_filter]
  congr 2
  funext entry
  simp [Bool.and_comm]

theorem mem_activeKeys_iff {window now : Nat} {log : List (Admission Key)}
    {key : Key} :
    key ∈ activeKeys window now log ↔
      ∃ instant ∈ instants log key, now - instant ≤ window := by
  simp only [activeKeys, List.mem_toFinset, List.mem_map, List.mem_filter,
    decide_eq_true_eq, mem_instants_iff]
  constructor
  · rintro ⟨⟨_, instant⟩, ⟨member, fresh⟩, rfl⟩
    exact ⟨instant, member, fresh⟩
  · rintro ⟨instant, member, fresh⟩
    exact ⟨⟨key, instant⟩, ⟨member, fresh⟩, rfl⟩

theorem recent_pos_iff {window now : Nat} {log : List (Admission Key)}
    {key : Key} :
    0 < recent window now log key ↔ key ∈ activeKeys window now log := by
  rw [recent_eq_length, List.length_pos_iff_exists_mem, mem_activeKeys_iff]
  simp only [List.mem_filter, decide_eq_true_eq]

/-! ## Pruning an ordered list of instants -/

/-- Drop the instants at the front that are out of the window. -/
def pruneFront (window now : Nat) (times : List Nat) : List Nat :=
  times.dropWhile fun instant => window < now - instant

/-- In an ordered list, dropping from the front drops all that is too old. -/
theorem pruneFront_eq_filter {window now : Nat} {times : List Nat}
    (ordered : times.Pairwise (· ≤ ·)) :
    pruneFront window now times =
      times.filter fun instant => now - instant ≤ window := by
  induction times with
  | nil => rfl
  | cons first others induction =>
      rcases List.pairwise_cons.mp ordered with ⟨least, rest⟩
      by_cases old : window < now - first
      · rw [pruneFront,
          List.dropWhile_cons_of_pos (by simpa only [decide_eq_true_eq]),
          List.filter_cons_of_neg
            (by simpa only [decide_eq_true_eq] using Nat.not_le.mpr old)]
        exact induction rest
      · have all : ∀ instant ∈ first :: others,
            now - instant ≤ window := by
          intro instant member
          rcases List.mem_cons.mp member with rfl | later
          · exact Nat.le_of_not_lt old
          · have after := least instant later
            omega
        rw [pruneFront,
          List.dropWhile_cons_of_neg (by simpa only [decide_eq_true_eq]),
          List.filter_eq_self.mpr]
        intro instant member
        exact decide_eq_true (all instant member)

/-- What was already out of the window does not come back. -/
theorem filter_append_expired {window earlier now : Nat} {old times : List Nat}
    (later : earlier ≤ now) (expired : ∀ instant ∈ old,
      window < earlier - instant) :
    (old ++ times).filter (fun instant => now - instant ≤ window) =
      times.filter fun instant => now - instant ≤ window := by
  have none : old.filter (fun instant => now - instant ≤ window) = [] := by
    apply List.filter_eq_nil_iff.mpr
    intro instant member
    have gone := expired instant member
    simp only [decide_eq_true_eq]
    omega
  rw [List.filter_append, none, List.nil_append]

/-! ## Throttled logs -/

/-- Every admission found less than the cap of recent ones of its key. -/
def Throttled (cap window : Nat) (log : List (Admission Key)) : Prop :=
  ∀ earlier entry later, log = earlier ++ entry :: later →
    recent window entry.instant earlier entry.key < cap

theorem Throttled.snoc {cap window : Nat} {log : List (Admission Key)}
    {entry : Admission Key} (throttled : Throttled cap window log)
    (below : recent window entry.instant log entry.key < cap) :
    Throttled cap window (log ++ [entry]) := by
  intro earlier other later whole
  rcases List.eq_nil_or_concat later with rfl | ⟨others, last, rfl⟩
  · obtain ⟨rfl, same⟩ := List.append_inj' whole rfl
    cases same
    exact below
  · have split : log ++ [entry] = (earlier ++ other :: others) ++ [last] := by
      simpa using whole
    obtain ⟨rfl, -⟩ := List.append_inj' split rfl
    exact throttled earlier other others rfl

theorem Throttled.front {cap window : Nat} {front back : List (Admission Key)}
    (throttled : Throttled cap window (front ++ back)) :
    Throttled cap window front := by
  rintro earlier entry later rfl
  exact throttled earlier entry (later ++ back) (by simp)

/-- No closed interval of the window's length holds more than the cap. -/
theorem Throttled.interval {cap window : Nat} {log : List (Admission Key)}
    (throttled : Throttled cap window log)
    (ordered : log.Pairwise fun left right => left.instant ≤ right.instant)
    (key : Key) (first : Nat) :
    log.countP (fun entry => entry.key = key ∧ first ≤ entry.instant ∧
      entry.instant ≤ first + window) ≤ cap := by
  induction log using List.reverseRecOn with
  | nil => exact Nat.zero_le cap
  | append_singleton log entry induction =>
      rcases List.pairwise_append.mp ordered with ⟨before, -, last⟩
      have bound := induction throttled.front before
      rw [List.countP_append, List.countP_singleton]
      split
      · rename_i inside
        simp only [decide_eq_true_eq] at inside
        rcases inside with ⟨rfl, after, within⟩
        have fewer : log.countP (fun other => other.key = entry.key ∧
            first ≤ other.instant ∧ other.instant ≤ first + window) ≤
              recent window entry.instant log entry.key := by
          apply List.countP_mono_left
          intro other member
          simp only [decide_eq_true_eq]
          rintro ⟨same, lower, upper⟩
          exact ⟨same, by omega⟩
        have below := throttled log entry [] rfl
        omega
      · exact bound

end NuxAuth.Lib.SlidingWindow
