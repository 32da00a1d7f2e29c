import Mathlib.Data.List.TakeWhile
import NuxAuth.Lib.FiniteTable
import NuxAuth.Lib.RecordedRun
import NuxAuth.Lib.SlidingWindow

/-!
# The inbound rate limiter

The limiter of `rate_limit` keeps, per source address, the instants of the
connections it admitted.  It forgets: an address is pruned when it calls, and
the whole table is swept once per window and when it is full.

`Tracks` relates the table to the log of every admission.  What the table lost
was out of the window already, so every decision is the one a limiter that
never forgets would take.
-/

namespace NuxAuth.Core

open NuxAuth.Lib.FiniteTable
open NuxAuth.Lib.RecordedRun
open NuxAuth.Lib.SlidingWindow

/-- `MAX_TRACKED_IPS`: more addresses than these are not tracked. -/
def maxTrackedIps : Nat := 100000

/-- What a limiter is configured with; no call changes it.  Durations and
instants count nanoseconds. -/
structure Limits (IpAddr : Type) where
  maxPerWindow : UInt32
  window : Nat
  maxTrackedIps : Nat
  exempt : Finset IpAddr

/-- The limits, the hits of every tracked address and the last sweep. -/
structure RateLimiter (IpAddr : Type) extends Limits IpAddr where
  hits : Table IpAddr (List Nat)
  lastSweep : Nat

variable {IpAddr : Type} [DecidableEq IpAddr]

namespace RateLimiter

/-- No address is tracked yet. -/
def new (maxPerWindow : UInt32) (window created : Nat) : RateLimiter IpAddr where
  maxPerWindow := maxPerWindow
  window := window
  maxTrackedIps := maxTrackedIps
  exempt := ∅
  hits := ∅
  lastSweep := created

/-- An address that is never limited. -/
def exempting (limiter : RateLimiter IpAddr) (ip : IpAddr) :
    RateLimiter IpAddr :=
  { limiter with exempt := insert ip limiter.exempt }

/-- The limiter of `Behaviour::with_exemptions`. -/
def withExemptions (maxPerWindow : UInt32) (window created : Nat)
    (exempt : List IpAddr) : RateLimiter IpAddr :=
  exempt.foldl exempting (new maxPerWindow window created)

/-- A limiter starts with an empty table, whatever is exempted. -/
theorem hits_withExemptions (maxPerWindow : UInt32) (window created : Nat)
    (exempt : List IpAddr) :
    (withExemptions maxPerWindow window created exempt).hits = ∅ := by
  have exempted : ∀ limiter : RateLimiter IpAddr,
      (exempt.foldl exempting limiter).hits = limiter.hits := by
    induction exempt with
    | nil => exact fun limiter => rfl
    | cons ip others induction =>
        exact fun limiter => induction (limiter.exempting ip)
  exact exempted (new maxPerWindow window created)

/-- The queue of an address, empty where the table has none. -/
def kept (limiter : RateLimiter IpAddr) (ip : IpAddr) : List Nat :=
  (limiter.hits.lookup ip).getD []

/-- Hits that left the window are dropped. -/
def prune (hits : List Nat) (now window : Nat) : List Nat :=
  pruneFront window now hits

/-- The queue after a sweep; an address with an empty queue is forgotten. -/
def sweepEntry (window now : Nat) (hits : List Nat) : Option (List Nat) :=
  if prune hits now window = [] then none else some (prune hits now window)

/-- Every address is pruned, and forgotten if nothing is left. -/
def sweep (limiter : RateLimiter IpAddr) (now : Nat) : RateLimiter IpAddr :=
  { limiter with
    hits := retain (fun _ => sweepEntry limiter.window now) limiter.hits
    lastSweep := now }

/-- The end of `allow_at`, from `entry(ip).or_default()` on. -/
def record (limiter : RateLimiter IpAddr) (ip : IpAddr) (now : Nat) :
    RateLimiter IpAddr × Bool :=
  let hits := prune (limiter.kept ip) now limiter.window
  if limiter.maxPerWindow.toNat ≤ hits.length then
    ({ limiter with hits := limiter.hits.insert ip hits }, false)
  else
    ({ limiter with hits := limiter.hits.insert ip (hits ++ [now]) }, true)

/-- The sweep that is due once per window. -/
def sweepIfDue (limiter : RateLimiter IpAddr) (now : Nat) :
    RateLimiter IpAddr :=
  if limiter.window ≤ now - limiter.lastSweep then limiter.sweep now
  else limiter

/-- What `allow_at` does once the periodic sweep is behind it. -/
def admitOrRefuse (limiter : RateLimiter IpAddr) (ip : IpAddr) (now : Nat) :
    RateLimiter IpAddr × Bool :=
  if limiter.hits.lookup ip = none ∧ limiter.maxTrackedIps ≤ len limiter.hits then
    if limiter.maxTrackedIps ≤ len (limiter.sweep now).hits then
      (limiter.sweep now, false)
    else
      (limiter.sweep now).record ip now
  else
    limiter.record ip now

/-- `allow_at`: whether a connection of the address is let in now. -/
def allowAt (limiter : RateLimiter IpAddr) (ip : IpAddr) (now : Nat) :
    RateLimiter IpAddr × Bool :=
  if ip ∈ limiter.exempt then (limiter, true)
  else (limiter.sweepIfDue now).admitOrRefuse ip now

end RateLimiter

/-! ## The specification -/

/-- What a limiter that remembers every admission would answer. -/
def Admits (limits : Limits IpAddr) (log : List (Admission IpAddr))
    (ip : IpAddr) (now : Nat) : Prop :=
  ip ∈ limits.exempt ∨
    recent limits.window now log ip < limits.maxPerWindow.toNat ∧
      (0 < recent limits.window now log ip ∨
        (activeKeys limits.window now log).card < limits.maxTrackedIps)

instance (limits : Limits IpAddr) (log : List (Admission IpAddr))
    (ip : IpAddr) (now : Nat) : Decidable (Admits limits log ip now) :=
  inferInstanceAs (Decidable (_ ∨ _))

/-- The log after a call that was answered `admitted`. -/
def logged (limits : Limits IpAddr) (log : List (Admission IpAddr))
    (ip : IpAddr) (now : Nat) (admitted : Bool) : List (Admission IpAddr) :=
  if admitted ∧ ip ∉ limits.exempt then log ++ [⟨ip, now⟩] else log

namespace RateLimiter

/-! ## What the table keeps of the log -/

/-- The table holds the end of what the log has of each address, and what it
lost of it was out of the window at the clock. -/
structure Tracks (limiter : RateLimiter IpAddr)
    (log : List (Admission IpAddr)) (clock : Nat) : Prop where
  forgotten : ∀ ip, ∃ old, instants log ip = old ++ limiter.kept ip ∧
    ∀ instant ∈ old, limiter.window < clock - instant
  ordered : log.Pairwise fun left right => left.instant ≤ right.instant
  past : ∀ entry ∈ log, entry.instant ≤ clock
  bounded : len limiter.hits ≤ limiter.maxTrackedIps

namespace Tracks

variable {limiter : RateLimiter IpAddr} {log : List (Admission IpAddr)}
    {clock now : Nat}

/-- A fresh limiter has admitted nobody. -/
theorem fresh (clock : Nat) (empty : limiter.hits = ∅) :
    Tracks limiter [] clock := by
  constructor
  · intro ip
    refine ⟨[], ?_, by simp⟩
    rw [kept, empty]
    rfl
  · exact List.Pairwise.nil
  · simp
  · rw [empty]
    exact Nat.zero_le _

theorem later (tracks : Tracks limiter log clock) (after : clock ≤ now) :
    Tracks limiter log now := by
  refine ⟨?_, tracks.ordered, ?_, tracks.bounded⟩
  · intro ip
    rcases tracks.forgotten ip with ⟨old, whole, expired⟩
    refine ⟨old, whole, ?_⟩
    intro instant member
    have gone := expired instant member
    omega
  · intro entry member
    exact Nat.le_trans (tracks.past entry member) after

/-- The instants of one address are in the order of the log. -/
theorem instants_ordered (tracks : Tracks limiter log clock) (ip : IpAddr) :
    (instants log ip).Pairwise (· ≤ ·) := by
  rw [instants, List.pairwise_map]
  exact tracks.ordered.filter _

/-- A pruned queue holds exactly the recent admissions of its address. -/
theorem prune_kept (tracks : Tracks limiter log now) (ip : IpAddr) :
    prune (limiter.kept ip) now limiter.window =
      (instants log ip).filter fun instant =>
        now - instant ≤ limiter.window := by
  rcases tracks.forgotten ip with ⟨old, whole, expired⟩
  have order := tracks.instants_ordered ip
  rw [whole] at order ⊢
  rw [filter_append_expired (Nat.le_refl now) expired, prune,
    pruneFront_eq_filter (List.pairwise_append.mp order).2.1]

theorem length_prune_kept (tracks : Tracks limiter log now) (ip : IpAddr) :
    (prune (limiter.kept ip) now limiter.window).length =
      recent limiter.window now log ip := by
  rw [tracks.prune_kept, recent_eq_length]

/-- Replacing a queue by its pruned form loses only what is out of the window. -/
theorem forgotten_prune (tracks : Tracks limiter log now) (ip : IpAddr) :
    ∃ old, instants log ip =
        old ++ prune (limiter.kept ip) now limiter.window ∧
      ∀ instant ∈ old, limiter.window < now - instant := by
  rcases tracks.forgotten ip with ⟨old, whole, expired⟩
  refine ⟨old ++ (limiter.kept ip).takeWhile
    (fun instant => limiter.window < now - instant), ?_, ?_⟩
  · rw [prune, pruneFront, List.append_assoc, List.takeWhile_append_dropWhile]
    exact whole
  · intro instant member
    rcases List.mem_append.mp member with before | dropped
    · exact expired instant before
    · have gone := List.mem_takeWhile_imp dropped
      simpa only [decide_eq_true_eq] using gone

/-! ### Sweeping -/

theorem kept_sweep (limiter : RateLimiter IpAddr) (ip : IpAddr) :
    (limiter.sweep now).kept ip =
      prune (limiter.kept ip) now limiter.window := by
  rw [kept, sweep, lookup_retain, kept]
  cases limiter.hits.lookup ip with
  | none => rfl
  | some hits =>
      simp only [Option.bind_some, sweepEntry, Option.getD_some]
      split
      · rename_i nothing
        rw [nothing]
        rfl
      · rfl

/-- After a sweep the table has exactly the addresses with a recent entry. -/
theorem keys_sweep (tracks : Tracks limiter log now) :
    (limiter.sweep now).hits.keys.toFinset =
      activeKeys limiter.window now log := by
  ext ip
  have queue : (limiter.sweep now).hits.lookup ip =
      (limiter.hits.lookup ip).bind (sweepEntry limiter.window now) :=
    lookup_retain _ limiter.hits ip
  rw [mem_toFinset_keys_iff, queue, ← recent_pos_iff,
    ← tracks.length_prune_kept, List.length_pos_iff, kept]
  cases limiter.hits.lookup ip with
  | none => simp [prune, pruneFront]
  | some hits => simp [sweepEntry]

theorem len_sweep (tracks : Tracks limiter log now) :
    len (limiter.sweep now).hits =
      (activeKeys limiter.window now log).card := by
  rw [← card_keys, tracks.keys_sweep]

/-- Every address with a recent entry has a place in the table. -/
theorem active_subset (tracks : Tracks limiter log now) :
    activeKeys limiter.window now log ⊆ limiter.hits.keys.toFinset := by
  intro ip active
  rw [← recent_pos_iff, ← tracks.length_prune_kept, List.length_pos_iff]
    at active
  rw [mem_toFinset_keys_iff]
  intro untracked
  rw [kept, untracked] at active
  exact active rfl

theorem card_active_le (tracks : Tracks limiter log now) :
    (activeKeys limiter.window now log).card ≤ len limiter.hits := by
  rw [← card_keys]
  exact Finset.card_le_card tracks.active_subset

/-- An idle address that still has a place leaves one to spare. -/
theorem card_active_lt (tracks : Tracks limiter log now) {ip : IpAddr}
    (tracked : limiter.hits.lookup ip ≠ none)
    (idle : ¬ 0 < recent limiter.window now log ip) :
    (activeKeys limiter.window now log).card < len limiter.hits := by
  rw [← card_keys]
  apply Finset.card_lt_card
  refine (Finset.ssubset_iff_of_subset tracks.active_subset).mpr ⟨ip, ?_, ?_⟩
  · exact mem_toFinset_keys_iff.mpr tracked
  · rwa [← recent_pos_iff]

/-- A sweep loses only what is out of the window. -/
theorem sweep (tracks : Tracks limiter log now) :
    Tracks (limiter.sweep now) log now := by
  refine ⟨?_, tracks.ordered, tracks.past, ?_⟩
  · intro ip
    rw [kept_sweep]
    exact tracks.forgotten_prune ip
  · rw [tracks.len_sweep]
    exact Nat.le_trans tracks.card_active_le tracks.bounded

theorem sweepIfDue (tracks : Tracks limiter log now) :
    Tracks (limiter.sweepIfDue now) log now := by
  rw [RateLimiter.sweepIfDue]
  split
  · exact tracks.sweep
  · exact tracks

/-! ### One call -/

theorem kept_insert (limiter : RateLimiter IpAddr) (ip other : IpAddr)
    (hits : List Nat) :
    kept { limiter with hits := limiter.hits.insert ip hits } other =
      if other = ip then hits else limiter.kept other := by
  rw [kept, lookup_insert_eq_ite]
  split
  · rfl
  · rfl

/-- A queue with room keeps the table within its bound. -/
theorem len_insert_le (tracks : Tracks limiter log now) {ip : IpAddr}
    (room : limiter.hits.lookup ip ≠ none ∨
      len limiter.hits < limiter.maxTrackedIps) (hits : List Nat) :
    len (limiter.hits.insert ip hits) ≤ limiter.maxTrackedIps := by
  cases entry : limiter.hits.lookup ip with
  | none =>
      rw [len_insert_new limiter.hits entry]
      exact room.resolve_left (fun tracked => tracked entry)
  | some old =>
      rw [len_insert_over limiter.hits entry]
      exact tracks.bounded

/-- A call below the cap is admitted and joins the queue and the log. -/
theorem record_admitted (tracks : Tracks limiter log now) {ip : IpAddr}
    (room : limiter.hits.lookup ip ≠ none ∨
      len limiter.hits < limiter.maxTrackedIps) :
    Tracks { limiter with
      hits := limiter.hits.insert ip
        (prune (limiter.kept ip) now limiter.window ++ [now]) }
      (log ++ [⟨ip, now⟩]) now := by
  refine ⟨?_, ?_, ?_, tracks.len_insert_le room _⟩
  · intro other
    rw [kept_insert, instants_append]
    split
    · rename_i same
      subst same
      rcases tracks.forgotten_prune other with ⟨old, whole, expired⟩
      refine ⟨old, ?_, expired⟩
      rw [whole, List.append_assoc]
      simp [instants]
    · rename_i different
      have unchanged : instants [⟨ip, now⟩] other = [] := by
        simp [instants, Ne.symm different]
      rw [unchanged, List.append_nil]
      exact tracks.forgotten other
  · refine List.pairwise_append.mpr
      ⟨tracks.ordered, List.pairwise_singleton _ _, ?_⟩
    intro entry member last isLast
    rw [List.mem_singleton.mp isLast]
    exact tracks.past entry member
  · intro entry member
    rcases List.mem_append.mp member with before | last
    · exact tracks.past entry before
    · rw [List.mem_singleton.mp last]

/-- A call at the cap only prunes the queue. -/
theorem record_refused (tracks : Tracks limiter log now) {ip : IpAddr}
    (room : limiter.hits.lookup ip ≠ none ∨
      len limiter.hits < limiter.maxTrackedIps) :
    Tracks { limiter with
      hits := limiter.hits.insert ip
        (prune (limiter.kept ip) now limiter.window) } log now := by
  refine ⟨?_, tracks.ordered, tracks.past, tracks.len_insert_le room _⟩
  intro other
  rw [kept_insert]
  split
  · rename_i same
    subst same
    exact tracks.forgotten_prune other
  · exact tracks.forgotten other

end Tracks

/-- The answer is that of the specification, and the table still tracks the
log once the answer is in it. -/
structure Answers (limits : Limits IpAddr) (log : List (Admission IpAddr))
    (ip : IpAddr) (now : Nat) (result : RateLimiter IpAddr × Bool) : Prop where
  decision : result.2 = true ↔ Admits limits log ip now
  unchanged : result.1.toLimits = limits
  tracks : Tracks result.1 (logged limits log ip now result.2) now

variable {limiter : RateLimiter IpAddr} {log : List (Admission IpAddr)}
    {clock now : Nat} {ip : IpAddr}

theorem admits_ordinary_iff {limits : Limits IpAddr}
    (ordinary : ip ∉ limits.exempt) :
    Admits limits log ip now ↔
      recent limits.window now log ip < limits.maxPerWindow.toNat ∧
        (0 < recent limits.window now log ip ∨
          (activeKeys limits.window now log).card < limits.maxTrackedIps) := by
  simp only [Admits, ordinary, false_or]

/-- Where the queue has a place, only the cap of the address decides. -/
theorem Tracks.answers_record (tracks : Tracks limiter log now)
    (ordinary : ip ∉ limiter.exempt)
    (room : limiter.hits.lookup ip ≠ none ∨
      len limiter.hits < limiter.maxTrackedIps) :
    Answers limiter.toLimits log ip now (limiter.record ip now) := by
  have spare : 0 < recent limiter.window now log ip ∨
      (activeKeys limiter.window now log).card < limiter.maxTrackedIps := by
    by_cases busy : 0 < recent limiter.window now log ip
    · exact Or.inl busy
    · right
      rcases room with tracked | space
      · exact Nat.lt_of_lt_of_le (tracks.card_active_lt tracked busy)
          tracks.bounded
      · exact Nat.lt_of_le_of_lt tracks.card_active_le space
  have decided : Admits limiter.toLimits log ip now ↔
      recent limiter.window now log ip < limiter.maxPerWindow.toNat := by
    rw [admits_ordinary_iff ordinary]
    exact and_iff_left spare
  have counted := tracks.length_prune_kept ip
  by_cases capped : limiter.maxPerWindow.toNat ≤
      (prune (limiter.kept ip) now limiter.window).length
  · rw [RateLimiter.record, if_pos capped]
    refine ⟨?_, rfl, tracks.record_refused room⟩
    rw [decided, ← counted]
    simpa only [Bool.false_eq_true, false_iff, Nat.not_lt] using capped
  · rw [RateLimiter.record, if_neg capped]
    refine ⟨?_, rfl, ?_⟩
    · rw [decided, ← counted]
      simpa only [true_iff, Nat.not_le] using capped
    · rw [logged, if_pos ⟨rfl, ordinary⟩]
      exact tracks.record_admitted room

/-- An unknown address that finds the table full of recent ones is refused. -/
theorem Tracks.answers_saturated (tracks : Tracks limiter log now)
    (ordinary : ip ∉ limiter.exempt) (untracked : limiter.hits.lookup ip = none)
    (full : limiter.maxTrackedIps ≤ len (limiter.sweep now).hits) :
    Answers limiter.toLimits log ip now (limiter.sweep now, false) := by
  have idle : recent limiter.window now log ip = 0 := by
    rw [← tracks.length_prune_kept, kept, untracked]
    rfl
  rw [tracks.len_sweep] at full
  refine ⟨?_, rfl, tracks.sweep⟩
  rw [admits_ordinary_iff ordinary, idle]
  simp [full]

theorem Tracks.answers_admitOrRefuse (tracks : Tracks limiter log now)
    (ordinary : ip ∉ limiter.exempt) :
    Answers limiter.toLimits log ip now (limiter.admitOrRefuse ip now) := by
  rw [admitOrRefuse]
  split
  · rename_i saturated
    split
    · rename_i full
      exact tracks.answers_saturated ordinary saturated.1 full
    · rename_i space
      have swept : Tracks (limiter.sweep now) log now := tracks.sweep
      exact swept.answers_record ordinary (Or.inr (Nat.lt_of_not_le space))
  · rename_i place
    apply tracks.answers_record ordinary
    by_cases untracked : limiter.hits.lookup ip = none
    · exact Or.inr (Nat.lt_of_not_le fun full => place ⟨untracked, full⟩)
    · exact Or.inl untracked

omit [DecidableEq IpAddr] in
@[simp]
theorem toLimits_sweepIfDue (limiter : RateLimiter IpAddr) (now : Nat) :
    (limiter.sweepIfDue now).toLimits = limiter.toLimits := by
  rw [sweepIfDue]
  split
  · rfl
  · rfl

/-- The limiter answers as its specification, from any tracked log. -/
theorem Tracks.answers_allowAt (tracks : Tracks limiter log clock)
    (after : clock ≤ now) (ip : IpAddr) :
    Answers limiter.toLimits log ip now (limiter.allowAt ip now) := by
  have current : Tracks limiter log now := tracks.later after
  rw [allowAt]
  split
  · rename_i exempted
    refine ⟨?_, rfl, ?_⟩
    · simp only [true_iff]
      exact Or.inl exempted
    · rw [logged, if_neg (by simp [exempted])]
      exact current
  · rename_i ordinary
    have same := toLimits_sweepIfDue limiter now
    rw [← same]
    apply current.sweepIfDue.answers_admitOrRefuse
    rw [same]
    exact ordinary

/-! ## Runs -/

/-- One call of `allow_at`. -/
structure Call (IpAddr : Type) where
  ip : IpAddr
  now : Nat

/-- A call, with its answer as the recorded action. -/
def allowStep (limiter : RateLimiter IpAddr) (call : Call IpAddr) :
    Option (RateLimiter IpAddr × List Bool) :=
  some ((limiter.allowAt call.ip call.now).1,
    [(limiter.allowAt call.ip call.now).2])

/-- The admissions of addresses that are not exempt. -/
def admissions (limits : Limits IpAddr)
    (trace : List (Transition (RateLimiter IpAddr) (Call IpAddr) Bool)) :
    List (Admission IpAddr) :=
  (trace.filter fun call =>
      call.actions = [true] ∧ call.event.ip ∉ limits.exempt).map
    fun call => ⟨call.event.ip, call.event.now⟩

/-- The calls come in the order of their clock readings. -/
def InOrder
    (trace : List (Transition (RateLimiter IpAddr) (Call IpAddr) Bool)) :
    Prop :=
  trace.Pairwise fun left right => left.event.now ≤ right.event.now

/-- What the limiter answers to a sequence of calls. -/
def answers (limiter : RateLimiter IpAddr) : List (Call IpAddr) → List Bool
  | [] => []
  | call :: rest =>
      (limiter.allowAt call.ip call.now).2 ::
        answers (limiter.allowAt call.ip call.now).1 rest

/-- Two limiters that track the same log cannot be told apart. -/
theorem Tracks.answers_eq {first second : RateLimiter IpAddr}
    (firstTracks : Tracks first log clock)
    (secondTracks : Tracks second log clock)
    (limits : first.toLimits = second.toLimits)
    {calls : List (Call IpAddr)}
    (ordered : (clock :: calls.map Call.now).Pairwise (· ≤ ·)) :
    answers first calls = answers second calls := by
  induction calls generalizing first second log clock with
  | nil => rfl
  | cons call rest induction =>
      rcases List.pairwise_cons.mp ordered with ⟨least, others⟩
      have after : clock ≤ call.now := least call.now (by simp)
      have left := firstTracks.answers_allowAt after call.ip
      have right := secondTracks.answers_allowAt after call.ip
      rw [← limits] at right
      have same : (first.allowAt call.ip call.now).2 =
          (second.allowAt call.ip call.now).2 :=
        Bool.eq_iff_iff.mpr (left.decision.trans right.decision.symm)
      have rightTracks := right.tracks
      rw [← same] at rightTracks
      rw [answers, answers, same, induction left.tracks rightTracks
        (left.unchanged.trans right.unchanged.symm) others]

/-- The log grows with a call as `logged` says. -/
theorem admissions_snoc (limits : Limits IpAddr)
    (trace : List (Transition (RateLimiter IpAddr) (Call IpAddr) Bool))
    (before after : RateLimiter IpAddr) (call : Call IpAddr) (answer : Bool) :
    admissions limits (trace ++ [⟨before, call, [answer], after⟩]) =
      logged limits (admissions limits trace) call.ip call.now answer := by
  rw [admissions, logged, List.filter_append, List.map_append]
  split
  · rename_i admitted
    simp [admissions, admitted]
  · rename_i unlogged
    simp only [admissions, List.cons.injEq, and_true, decide_eq_true_eq,
      unlogged, not_false_eq_true, List.filter_cons_of_neg, List.filter_nil,
      List.map_nil, List.append_nil]

variable {finish : RateLimiter IpAddr}
    {trace : List (Transition (RateLimiter IpAddr) (Call IpAddr) Bool)}

/-- After a run the limiter tracks the log, at every later clock. -/
theorem tracks_of_run (empty : limiter.hits = ∅)
    (run : Run allowStep limiter trace finish) (ordered : InOrder trace) :
    finish.toLimits = limiter.toLimits ∧
      ∀ now, (∀ call ∈ trace, call.event.now ≤ now) →
        Tracks finish (admissions limiter.toLimits trace) now := by
  induction run with
  | start => exact ⟨rfl, fun now _ => Tracks.fresh now empty⟩
  | @snoc trace state call actions next prior taken induction =>
      rcases List.pairwise_append.mp ordered with ⟨before, -, last⟩
      rcases induction before with ⟨limits, tracked⟩
      cases taken
      have current : ∀ earlier ∈ trace, earlier.event.now ≤ call.now :=
        fun earlier member => last earlier member _ (List.mem_singleton.mpr rfl)
      have answered := (tracked call.now current).answers_allowAt
        (Nat.le_refl call.now) call.ip
      refine ⟨answered.unchanged.trans limits, ?_⟩
      intro now after
      rw [limits] at answered
      rw [admissions_snoc]
      exact answered.tracks.later
        (after _ (List.mem_append_right _ (List.mem_singleton.mpr rfl)))

/-- What the limiter owes to the full log of the calls it answered. -/
structure MeetsFullLog (limiter : RateLimiter IpAddr)
    (trace : List (Transition (RateLimiter IpAddr) (Call IpAddr) Bool))
    (finish : RateLimiter IpAddr) : Prop where
  decided : ∀ earlier call later, trace = earlier ++ call :: later →
    (call.actions = [true] ↔ Admits limiter.toLimits
      (admissions limiter.toLimits earlier) call.event.ip call.event.now)
  refusedUnseen : ∀ earlier call later, trace = earlier ++ call :: later →
    call.actions = [false] → ∀ calls : List (Call IpAddr),
      (call.event.now :: calls.map Call.now).Pairwise (· ≤ ·) →
        answers call.after calls = answers call.before calls
  sweepUnseen : ∀ clock, (∀ call ∈ trace, call.event.now ≤ clock) →
    ∀ calls : List (Call IpAddr),
      (clock :: calls.map Call.now).Pairwise (· ≤ ·) →
        answers (finish.sweep clock) calls = answers finish calls
  throttled : ∀ ip first,
    (admissions limiter.toLimits trace).countP (fun entry =>
      entry.key = ip ∧ first ≤ entry.instant ∧
        entry.instant ≤ first + limiter.window) ≤ limiter.maxPerWindow.toNat
  bounded : len finish.hits ≤ limiter.maxTrackedIps

/-- What one call of a run did, and what the limiter tracked before it. -/
theorem call_of_run (empty : limiter.hits = ∅)
    (run : Run allowStep limiter trace finish) (ordered : InOrder trace)
    {earlier later : List (Transition (RateLimiter IpAddr) (Call IpAddr) Bool)}
    {call : Transition (RateLimiter IpAddr) (Call IpAddr) Bool}
    (whole : trace = earlier ++ call :: later) :
    Tracks call.before (admissions limiter.toLimits earlier) call.event.now ∧
      call.actions =
        [(call.before.allowAt call.event.ip call.event.now).2] ∧
      call.after = (call.before.allowAt call.event.ip call.event.now).1 ∧
      Answers limiter.toLimits (admissions limiter.toLimits earlier)
        call.event.ip call.event.now
        (call.before.allowAt call.event.ip call.event.now) := by
  subst whole
  rcases run.transition with ⟨prior, taken, -⟩
  rcases List.pairwise_append.mp ordered with ⟨before, -, across⟩
  rcases tracks_of_run empty prior before with ⟨limits, tracked⟩
  have tracks := tracked call.event.now fun past member =>
    across past member call List.mem_cons_self
  have answered := tracks.answers_allowAt (Nat.le_refl _) call.event.ip
  rw [limits] at answered
  have result := Option.some.inj taken
  exact ⟨tracks, (congrArg Prod.snd result).symm,
    (congrArg Prod.fst result).symm, answered⟩

/-- The log of a run is in the order of its calls. -/
theorem admissions_ordered (limits : Limits IpAddr) (ordered : InOrder trace) :
    (admissions limits trace).Pairwise fun left right =>
      left.instant ≤ right.instant := by
  rw [admissions, List.pairwise_map]
  exact ordered.filter _

theorem admissions_throttled (empty : limiter.hits = ∅)
    (run : Run allowStep limiter trace finish) (ordered : InOrder trace) :
    Throttled limiter.maxPerWindow.toNat limiter.window
      (admissions limiter.toLimits trace) := by
  induction trace using List.reverseRecOn generalizing finish with
  | nil =>
      rintro (_ | ⟨entry, earlier⟩) other later whole
      · cases whole
      · cases whole
  | append_singleton trace last induction =>
      rcases run.snoc_inv with ⟨prior, -, -⟩
      have before := induction prior (List.pairwise_append.mp ordered).1
      rcases call_of_run empty run ordered rfl with
        ⟨-, recorded, -, answered⟩
      rcases last with ⟨state, call, actions, next⟩
      dsimp only at recorded answered
      subst recorded
      rw [admissions_snoc, logged]
      split
      · rename_i admitted
        apply before.snoc
        have allowed := answered.decision.mp admitted.1
        exact ((admits_ordinary_iff admitted.2).mp allowed).1
      · exact before

/--
In every run of calls with non-decreasing clock readings, each call is answered
as a limiter with the full log would answer it; refusals and sweeps change no
later answer; and the admissions and the table keep within their bounds.
-/
theorem rate_limiter_meets_full_log (empty : limiter.hits = ∅)
    (run : Run allowStep limiter trace finish) (ordered : InOrder trace) :
    MeetsFullLog limiter trace finish := by
  constructor
  case decided =>
    intro earlier call later whole
    rcases call_of_run empty run ordered whole with ⟨-, recorded, -, answered⟩
    rw [recorded, List.cons.injEq, and_iff_left rfl]
    exact answered.decision
  case refusedUnseen =>
    intro earlier call later whole refused calls after
    rcases call_of_run empty run ordered whole with
      ⟨tracks, recorded, moved, answered⟩
    have denied : (call.before.allowAt call.event.ip call.event.now).2 =
        false := by
      rw [recorded] at refused
      exact (List.cons.inj refused).1
    have tracksAfter := answered.tracks
    rw [denied, logged, if_neg (by simp), ← moved] at tracksAfter
    have limits : call.after.toLimits = call.before.toLimits := by
      rw [moved]
      exact (tracks.answers_allowAt (Nat.le_refl _) call.event.ip).unchanged
    exact tracksAfter.answers_eq tracks limits after
  case sweepUnseen =>
    intro clock current calls after
    have tracks := (tracks_of_run empty run ordered).2 clock current
    exact tracks.sweep.answers_eq tracks rfl after
  case throttled =>
    intro ip first
    exact (admissions_throttled empty run ordered).interval
      (admissions_ordered _ ordered) ip first
  case bounded =>
    rcases tracks_of_run empty run ordered with ⟨limits, tracked⟩
    rcases List.eq_nil_or_concat trace with rfl | ⟨earlier, last, whole⟩
    · rw [← limits]
      exact (tracked 0 (by simp)).bounded
    · rw [List.concat_eq_append] at whole
      rcases call_of_run empty run ordered whole with ⟨-, -, moved, answered⟩
      rw [whole] at run
      rw [← run.snoc_inv.2.2, moved, ← answered.unchanged]
      exact answered.tracks.bounded

/-- Two calls fill the cap, the third is refused, and at 61 the first is out of
the window; an exempt address is admitted in between. -/
theorem rate_limiter_meets_full_log_of_two :
    ∃ trace finish,
      Run allowStep (withExemptions 2 60 0 [9] : RateLimiter Nat) trace finish ∧
        trace.map (fun call => (call.event.now, call.actions)) =
          [(0, [true]), (30, [true]), (30, [true]), (60, [false]),
            (61, [true])] ∧
        MeetsFullLog (withExemptions 2 60 0 [9]) trace finish := by
  have computed : (execute allowStep
      (withExemptions 2 60 0 [9] : RateLimiter Nat)
      [⟨7, 0⟩, ⟨7, 30⟩, ⟨9, 30⟩, ⟨7, 60⟩, ⟨7, 61⟩]).any (fun result =>
        decide (result.1.map (fun call => (call.event.now, call.actions)) =
          [(0, [true]), (30, [true]), (30, [true]), (60, [false]),
            (61, [true])])) = true := by
    decide
  rcases exists_run_of_any computed with
    ⟨trace, finish, run, events, answered⟩
  have ordered : InOrder trace := by
    have times : (trace.map Transition.event).Pairwise
        fun left right => left.now ≤ right.now := by
      rw [events]
      decide
    rw [List.pairwise_map] at times
    exact times
  exact ⟨trace, finish, run, of_decide_eq_true answered,
    rate_limiter_meets_full_log (hits_withExemptions 2 60 0 [9]) run ordered⟩

end RateLimiter

end NuxAuth.Core
