import NuxAuth.Lib.RecordedRun
import NuxAuth.Gateway.Configs

/-!
# The limiter of the sensitive routes

`WindowLimiter` counts calls in a fixed window, and a call that comes
`window_secs` after the start of the window opens the next one.  Refused calls
are counted too, so the count says how many calls a window saw, and how many of
them were admitted follows from it.

Two routers share one limiter.  The calls of a run come from either of them,
with non-decreasing clock readings.
-/

namespace NuxAuth.Gateway

open NuxAuth.Lib.RecordedRun

/-- The limits, the start of the window and the calls in it. -/
structure WindowLimiter where
  maxPerWindow : UInt32
  windowSecs : UInt64
  windowStart : UInt64
  count : UInt32

/-- The routers that ask the limiter. -/
inductive SensitiveRouter where
  | guard
  | client

/-- A request to a limited route, and the reading of the clock. -/
structure LimitedRequest where
  router : SensitiveRouter
  now : UInt64

namespace WindowLimiter

/-- The first window starts now. -/
def new (maxPerWindow : UInt32) (windowSecs now : UInt64) : WindowLimiter where
  maxPerWindow := maxPerWindow
  windowSecs := windowSecs
  windowStart := now
  count := 0

/-- The test of `allow` that ends a window; the difference saturates. -/
def isOver (limiter : WindowLimiter) (now : UInt64) : Bool :=
  limiter.windowSecs.toNat ≤ now.toNat - limiter.windowStart.toNat

/-- `WindowLimiter::allow`, as one step: a window that is over is started anew,
and the call is counted whether it is admitted or not. -/
def allow (limiter : WindowLimiter) (now : UInt64) : WindowLimiter × Bool :=
  let current :=
    if limiter.isOver now then
      { limiter with windowStart := now, count := 0 }
    else
      limiter
  ({ current with count := current.count + 1 },
    current.count < current.maxPerWindow)

/-- The middleware of a limited route. -/
def enforce (limiter : WindowLimiter) (request : LimitedRequest) :
    Option (WindowLimiter × List (Except AppError Unit)) :=
  let (limiter, allowed) := limiter.allow request.now
  some (limiter, [if allowed then .ok () else .error .rateLimited])

end WindowLimiter

/-- One recorded call of the limiter. -/
abbrev LimitedCall :=
  Transition WindowLimiter LimitedRequest (Except AppError Unit)

/-! ## Windows of calls -/

namespace LimitedCall

/-- The call starts a window of its own. -/
def opens (call : LimitedCall) : Bool :=
  call.before.isOver call.event.now

/-- The call was let through. -/
def admitted (call : LimitedCall) : Bool :=
  call.actions = [.ok ()]

/-- The clock reading lies in the half-open interval. -/
def within (first length : Nat) (call : LimitedCall) : Bool :=
  first ≤ call.event.now.toNat ∧ call.event.now.toNat < first + length

end LimitedCall

/-- The calls since the current window started. -/
def currentWindow (trace : List LimitedCall) : List LimitedCall :=
  trace.foldl
    (fun window call => if call.opens then [call] else window ++ [call]) []

/-- The clock does not run backwards from call to call. -/
def InClockOrder (trace : List LimitedCall) : Prop :=
  trace.Pairwise fun left right => left.event.now ≤ right.event.now

theorem currentWindow_snoc (trace : List LimitedCall) (last : LimitedCall) :
    currentWindow (trace ++ [last]) =
      if last.opens then [last] else currentWindow trace ++ [last] := by
  rw [currentWindow, List.foldl_append]
  rfl

/-! ## One call -/

/-- A call counts in the window it finds, or in the one it opens. -/
inductive CallEffect (call : LimitedCall) : Prop where
  | opened (elapsed : call.opens = true)
      (start : call.after.windowStart = call.event.now)
      (count : call.after.count = 1)
      (answered : call.admitted = true ↔ 0 < call.before.maxPerWindow.toNat)
  | joined (running : call.opens = false)
      (start : call.after.windowStart = call.before.windowStart)
      (count : call.after.count = call.before.count + 1)
      (answered : call.admitted = true ↔
        call.before.count.toNat < call.before.maxPerWindow.toNat)

open WindowLimiter

section Step

variable {call : LimitedCall}

theorem kept_of_taken
    (taken : enforce call.before call.event = some (call.after, call.actions)) :
    call.after.maxPerWindow = call.before.maxPerWindow ∧
      call.after.windowSecs = call.before.windowSecs := by
  rw [enforce, allow, Option.some.injEq, Prod.mk.injEq] at taken
  rw [← taken.1]
  by_cases elapsed : call.before.isOver call.event.now = true
  · simp [elapsed]
  · simp [elapsed]

theorem callEffect
    (taken : enforce call.before call.event = some (call.after, call.actions)) :
    CallEffect call := by
  have answers : ∀ seen maxPerWindow : UInt32,
      decide ([if decide (seen < maxPerWindow) = true then
          (.ok () : Except AppError Unit) else .error .rateLimited] =
        [.ok ()]) = true ↔ seen.toNat < maxPerWindow.toNat := by
    intro seen maxPerWindow
    rw [← UInt32.lt_iff_toNat_lt]
    by_cases below : seen < maxPerWindow
    · simp [below]
    · simp [below]
  rw [enforce, allow, Option.some.injEq, Prod.mk.injEq] at taken
  rcases taken with ⟨after, answered⟩
  by_cases elapsed : call.before.isOver call.event.now = true
  · simp only [elapsed, if_true] at after answered
    refine .opened elapsed ?_ ?_ ?_
    · rw [← after]
    · rw [← after]
      rfl
    · rw [LimitedCall.admitted, ← answered]
      exact answers 0 _
  · simp only [elapsed, Bool.false_eq_true, if_false] at after answered
    refine .joined (Bool.eq_false_iff.mpr elapsed) ?_ ?_ ?_
    · rw [← after]
    · rw [← after]
    · rw [LimitedCall.admitted, ← answered]
      exact answers _ _

end Step

theorem toNat_succ {seen : UInt32} (below : seen.toNat + 1 < 2 ^ 32) :
    (seen + 1).toNat = seen.toNat + 1 := by
  rw [UInt32.toNat_add]
  exact Nat.mod_eq_of_lt below

/-! ## The count says how many calls a window saw -/

section Runs

variable {start finish : WindowLimiter} {trace : List LimitedCall}
    {call : LimitedCall}

/-- The limiter after the calls of a run, and the window it is in. -/
structure CountsWindow (start : WindowLimiter) (trace : List LimitedCall)
    (limiter : WindowLimiter) : Prop where
  maxPerWindow : limiter.maxPerWindow = start.maxPerWindow
  calls : limiter.count.toNat = (currentWindow trace).length ∧
    (currentWindow trace).countP LimitedCall.admitted =
      min start.maxPerWindow.toNat (currentWindow trace).length

theorem CountsWindow.count (counts : CountsWindow start trace finish) :
    finish.count.toNat = (currentWindow trace).length :=
  counts.calls.1

theorem CountsWindow.filled (counts : CountsWindow start trace finish) :
    (currentWindow trace).countP LimitedCall.admitted =
      min start.maxPerWindow.toNat (currentWindow trace).length :=
  counts.calls.2

theorem CountsWindow.step (counts : CountsWindow start trace call.before)
    (taken : enforce call.before call.event = some (call.after, call.actions))
    (few : (currentWindow (trace ++ [call])).length < 2 ^ 32) :
    CountsWindow start (trace ++ [call]) call.after := by
  have window := currentWindow_snoc trace call
  refine ⟨(kept_of_taken taken).1.trans counts.maxPerWindow, ?_⟩
  cases callEffect taken with
  | opened elapsed begun count answered =>
      rw [if_pos elapsed] at window
      rw [counts.maxPerWindow] at answered
      rw [window, count, List.countP_singleton, List.length_singleton]
      refine ⟨rfl, ?_⟩
      simp only [answered]
      split
      · omega
      · omega
  | joined running begun count answered =>
      rw [if_neg (by simp [running])] at window
      rw [window, List.length_append, ← counts.count] at few
      rw [counts.maxPerWindow] at answered
      rw [window, count, List.length_append, List.countP_append,
        List.countP_singleton, counts.filled, ← counts.count]
      refine ⟨toNat_succ few, ?_⟩
      rw [List.length_singleton]
      simp only [answered]
      split
      · omega
      · omega

theorem countsWindow_of_run {maxPerWindow : UInt32} {windowSecs now : UInt64}
    (run : Run enforce (.new maxPerWindow windowSecs now) trace finish)
    (few : ∀ earlier, earlier <+: trace →
      (currentWindow earlier).length < 2 ^ 32) :
    CountsWindow (.new maxPerWindow windowSecs now) trace finish := by
  induction run with
  | start => exact ⟨rfl, rfl, (Nat.min_zero _).symm⟩
  | snoc prior taken induction =>
      have counts := induction fun earlier front =>
        few earlier (front.trans (List.prefix_append _ _))
      exact counts.step taken (few _ List.prefix_rfl)

/-! ## How many calls are admitted in an interval -/

/-- The admitted calls of the interval. -/
def admittedWithin (first length : Nat) (trace : List LimitedCall) : Nat :=
  trace.countP fun call => call.admitted && call.within first length

variable {first length : Nat}

theorem admittedWithin_cons_le (first length : Nat) (call : LimitedCall)
    (rest : List LimitedCall) :
    admittedWithin first length (call :: rest) ≤
      admittedWithin first length rest +
        if call.admitted = true then 1 else 0 := by
  rw [admittedWithin, admittedWithin, List.countP_cons]
  cases call.admitted with
  | true =>
      rw [Bool.true_and]
      split
      · exact Nat.le_refl _
      · exact Nat.le_succ _
  | false => exact Nat.le_refl _

/-- Nothing is admitted in an interval once it is over. -/
theorem admittedWithin_of_late
    (late : ∀ call ∈ trace, first + length ≤ call.event.now.toNat) :
    admittedWithin first length trace = 0 := by
  rw [admittedWithin, List.countP_eq_zero]
  intro call member
  have after := late call member
  simp only [LimitedCall.within, Bool.and_eq_true, decide_eq_true_eq]
  omega

theorem InClockOrder.all_after {rest : List LimitedCall}
    (ordered : InClockOrder (call :: rest)) {bound : Nat}
    (here : bound ≤ call.event.now.toNat) :
    ∀ later ∈ call :: rest, bound ≤ later.event.now.toNat := by
  intro later member
  rcases List.mem_cons.mp member with rfl | after
  · exact here
  · exact here.trans
      (UInt64.le_iff_toNat_le.mp ((List.pairwise_cons.mp ordered).1 later after))

/-- The count does not wrap around. -/
def Counted (call : LimitedCall) : Prop :=
  call.opens = false → call.before.count.toNat + 1 < 2 ^ 32

/-- A window that started in the interval outlasts it. -/
theorem admittedWithin_of_started (run : Run enforce start trace finish)
    (ordered : InClockOrder trace) (counted : ∀ call ∈ trace, Counted call)
    (after : ∀ call ∈ trace, first ≤ call.event.now.toNat)
    (started : first ≤ start.windowStart.toNat) :
    admittedWithin first start.windowSecs.toNat trace +
        min start.count.toNat start.maxPerWindow.toNat ≤
      start.maxPerWindow.toNat := by
  induction trace generalizing start with
  | nil =>
      rw [admittedWithin, List.countP_nil]
      omega
  | cons call rest induction =>
      rcases run.cons_inv with ⟨rfl, taken, others⟩
      cases callEffect taken with
      | opened elapsed begun count answered =>
          have late : first + call.before.windowSecs.toNat ≤
              call.event.now.toNat := by
            have here := after call List.mem_cons_self
            simp only [LimitedCall.opens, isOver, decide_eq_true_eq] at elapsed
            omega
          rw [admittedWithin_of_late (ordered.all_after late)]
          omega
      | joined running begun count answered =>
          have below := counted call List.mem_cons_self running
          have bound := induction others (List.pairwise_cons.mp ordered).2
            (fun later member => counted later (List.mem_cons_of_mem _ member))
            (fun later member => after later (List.mem_cons_of_mem _ member))
            (begun ▸ started)
          rw [(kept_of_taken taken).1, (kept_of_taken taken).2, count,
            toNat_succ below] at bound
          have split := admittedWithin_cons_le first
            call.before.windowSecs.toNat call rest
          simp only [answered] at split
          split at split
          · omega
          · omega

/-- From the start of the interval on, at most one window is opened. -/
theorem admittedWithin_of_after (run : Run enforce start trace finish)
    (ordered : InClockOrder trace) (counted : ∀ call ∈ trace, Counted call)
    (after : ∀ call ∈ trace, first ≤ call.event.now.toNat) :
    admittedWithin first start.windowSecs.toNat trace +
        min start.count.toNat start.maxPerWindow.toNat ≤
      2 * start.maxPerWindow.toNat := by
  induction trace generalizing start with
  | nil =>
      rw [admittedWithin, List.countP_nil]
      omega
  | cons call rest induction =>
      rcases run.cons_inv with ⟨rfl, taken, others⟩
      have orderedRest := (List.pairwise_cons.mp ordered).2
      have countedRest : ∀ later ∈ rest, Counted later :=
        fun later member => counted later (List.mem_cons_of_mem _ member)
      have afterRest : ∀ later ∈ rest, first ≤ later.event.now.toNat :=
        fun later member => after later (List.mem_cons_of_mem _ member)
      have split := admittedWithin_cons_le first
        call.before.windowSecs.toNat call rest
      cases callEffect taken with
      | opened elapsed begun count answered =>
          have bound := admittedWithin_of_started others orderedRest
            countedRest afterRest (begun ▸ after call List.mem_cons_self)
          rw [(kept_of_taken taken).1, (kept_of_taken taken).2, count,
            UInt32.toNat_one] at bound
          simp only [answered] at split
          split at split
          · omega
          · omega
      | joined running begun count answered =>
          have below := counted call List.mem_cons_self running
          have bound := induction others orderedRest countedRest afterRest
          rw [(kept_of_taken taken).1, (kept_of_taken taken).2, count,
            toNat_succ below] at bound
          simp only [answered] at split
          split at split
          · omega
          · omega

theorem admittedWithin_le (run : Run enforce start trace finish)
    (ordered : InClockOrder trace) (counted : ∀ call ∈ trace, Counted call)
    (first : Nat) :
    admittedWithin first start.windowSecs.toNat trace ≤
      2 * start.maxPerWindow.toNat := by
  induction trace generalizing start with
  | nil => exact Nat.zero_le _
  | cons call rest induction =>
      by_cases here : first ≤ call.event.now.toNat
      · have bound := admittedWithin_of_after run ordered counted
          (ordered.all_after here)
        omega
      · rcases run.cons_inv with ⟨rfl, taken, others⟩
        have outside : admittedWithin first call.before.windowSecs.toNat
            (call :: rest) =
              admittedWithin first call.before.windowSecs.toNat rest := by
          rw [admittedWithin, List.countP_cons_of_neg]
          · rfl
          · simp [LimitedCall.within, here]
        have bound := induction others (List.pairwise_cons.mp ordered).2
          fun later member => counted later (List.mem_cons_of_mem _ member)
        rw [(kept_of_taken taken).1, (kept_of_taken taken).2] at bound
        rw [outside]
        exact bound

/-! ## What the limiter promises -/

/-- Refusals only at the cap, full windows, and a bounded throughput. -/
structure BoundsThroughput (maxPerWindow : UInt32) (windowSecs : UInt64)
    (trace : List LimitedCall) : Prop where
  refusedAtCap : ∀ earlier call later, trace = earlier ++ call :: later →
    call.admitted = false →
      (currentWindow (earlier ++ [call])).countP LimitedCall.admitted =
        maxPerWindow.toNat
  filled : ∀ earlier, earlier <+: trace →
    (currentWindow earlier).countP LimitedCall.admitted =
      min maxPerWindow.toNat (currentWindow earlier).length
  throttled : ∀ first, admittedWithin first windowSecs.toNat trace ≤
    2 * maxPerWindow.toNat

/--
In every run of calls with non-decreasing clock readings and fewer than `2 ^ 32`
calls in each window, a call is refused at the cap only, every window admits as
many calls as the cap allows, and no interval as long as a window admits more
than twice the cap.
-/
theorem window_limiter_bounds_throughput {maxPerWindow : UInt32}
    {windowSecs now : UInt64}
    (run : Run enforce (.new maxPerWindow windowSecs now) trace finish)
    (ordered : InClockOrder trace)
    (few : ∀ earlier, earlier <+: trace →
      (currentWindow earlier).length < 2 ^ 32) :
    BoundsThroughput maxPerWindow windowSecs trace := by
  have counted : ∀ earlier later middle, trace = earlier ++ later →
      Run enforce (.new maxPerWindow windowSecs now) earlier middle →
        CountsWindow (.new maxPerWindow windowSecs now) earlier middle := by
    rintro earlier later middle rfl prior
    exact countsWindow_of_run prior fun front inside =>
      few front (inside.trans (List.prefix_append _ _))
  constructor
  case refusedAtCap =>
    rintro earlier call later rfl refused
    rcases run.transition with ⟨prior, taken, -⟩
    have counts := counted _ _ _ rfl prior
    have window := currentWindow_snoc earlier call
    have filled := counts.filled
    rw [← counts.count] at filled
    cases callEffect taken with
    | opened elapsed begun count answered =>
        rw [refused, counts.maxPerWindow] at answered
        have closed : ¬ 0 < maxPerWindow.toNat :=
          fun below => Bool.false_ne_true (answered.mpr below)
        rw [window, if_pos elapsed, List.countP_singleton, refused]
        exact (Nat.eq_zero_of_not_pos closed).symm
    | joined running begun count answered =>
        rw [refused, counts.maxPerWindow] at answered
        have full : maxPerWindow.toNat ≤ call.before.count.toNat :=
          Nat.not_lt.mp fun below => Bool.false_ne_true (answered.mpr below)
        rw [window, if_neg (by simp [running]), List.countP_append,
          List.countP_singleton, refused, filled]
        exact Nat.min_eq_left full
  case filled =>
    rintro earlier ⟨later, rfl⟩
    rcases run.split with ⟨middle, prior, -⟩
    exact (counted _ _ _ rfl prior).filled
  case throttled =>
    intro first
    refine admittedWithin_le run ordered ?_ first
    intro call member running
    rcases List.append_of_mem member with ⟨earlier, later, rfl⟩
    rcases run.transition with ⟨prior, -, -⟩
    have counts := counted _ _ _ rfl prior
    have upto := few (earlier ++ [call]) ⟨later, by simp⟩
    rw [currentWindow_snoc, if_neg (by simp [running]), List.length_append,
      ← counts.count] at upto
    exact upto

theorem length_currentWindow_le (trace : List LimitedCall) :
    (currentWindow trace).length ≤ trace.length := by
  induction trace using List.reverseRecOn with
  | nil => exact Nat.le_refl _
  | append_singleton trace last induction =>
      rw [currentWindow_snoc, List.length_append]
      split
      · exact Nat.le_add_left _ _
      · rw [List.length_append]
        exact Nat.add_le_add_right induction _

end Runs

/-- One call a minute, from two routers: the second call is refused. -/
theorem window_limiter_bounds_throughput_small :
    ∃ trace finish,
      Run enforce (.new 1 60 0) trace finish ∧
      trace.map LimitedCall.admitted = [true, false, true] ∧
      BoundsThroughput 1 60 trace := by
  have computed : (execute enforce (.new 1 60 0)
      [⟨.guard, 0⟩, ⟨.client, 59⟩, ⟨.guard, 60⟩]).any
      (fun result =>
        decide (result.1.map LimitedCall.admitted = [true, false, true] ∧
          result.1.length = 3 ∧
          result.1.Pairwise fun left right =>
            left.event.now ≤ right.event.now)) = true := by
    decide +kernel
  rcases exists_run_of_any computed with ⟨trace, finish, run, -, observed⟩
  rw [decide_eq_true_eq] at observed
  rcases observed with ⟨answers, calls, ordered⟩
  refine ⟨trace, finish, run, answers,
    window_limiter_bounds_throughput run ordered ?_⟩
  intro earlier inside
  have short := (length_currentWindow_le earlier).trans inside.length_le
  have three : trace.length = 3 := calls
  omega

end NuxAuth.Gateway
