import Flashcard.Proofs.Double
import Flashcard.Proofs.Scheduling.Run
import Flashcard.Scheduling.Scheduler

/-!
# Numbers in and out of a scheduler

A double can be infinite, or no number at all, and then it is not stored, or not read again. Whether
this can come of an answer depends on the scheduler.

- `SchedulingState.Finite`: interval and ease of a state are finite.
- `Review.Numeric`: the doubles of a record are numbers.
- `Scheduler.Numeric`, `Scheduler.Finite`: of finite states, answers are recorded in numbers, and lead
  to finite states.

## Main statements

- `Sm2.numeric`, `Sm2.finite`: SM-2 is such a scheduler, if its lower limit of the ease is finite and
  its first intervals are numbers.
-/

namespace Flashcard

open Double

/-! ## States and records -/

/-- Whether interval and ease of a state are numbers. -/
structure SchedulingState.Numeric (s : SchedulingState) : Prop where
  interval : s.intervalDays.isNaN = false
  ease : s.easeFactor.isNaN = false

/-- Whether all doubles of a record are numbers. -/
structure Review.Numeric (r : Review) : Prop where
  intervalBefore : r.intervalBefore.isNaN = false
  intervalAfter : r.intervalAfter.isNaN = false
  easeBefore : r.easeBefore.isNaN = false
  easeAfter : r.easeAfter.isNaN = false

/-- The time that an answer took is no double. -/
theorem Review.Numeric.timed {r : Review} (h : r.Numeric) (timeTakenMs : Option Nat) :
    Review.Numeric { r with timeTakenMs } :=
  ⟨h.intervalBefore, h.intervalAfter, h.easeBefore, h.easeAfter⟩

/-- A record holds numbers if the states before and after it do. -/
theorem Review.Records.numeric {r : Review} {s next : SchedulingState} (h : r.Records s next)
    (before : s.Numeric) (after : next.Numeric) : r.Numeric where
  intervalBefore := h.intervalBefore ▸ before.interval
  intervalAfter := h.intervalAfter ▸ after.interval
  easeBefore := h.easeBefore ▸ before.ease
  easeAfter := h.easeAfter ▸ after.ease

/-- Whether interval and ease of a state are finite. -/
structure SchedulingState.Finite (s : SchedulingState) : Prop where
  interval : s.intervalDays.isFinite = true
  ease : s.easeFactor.isFinite = true

theorem SchedulingState.finite_iff {s : SchedulingState} :
    s.Finite ↔ s.intervalDays.isFinite = true ∧ s.easeFactor.isFinite = true :=
  ⟨fun h => ⟨h.interval, h.ease⟩, fun h => ⟨h.1, h.2⟩⟩

instance (s : SchedulingState) : Decidable s.Finite :=
  decidable_of_iff _ SchedulingState.finite_iff.symm

theorem SchedulingState.Finite.numeric {s : SchedulingState} (h : s.Finite) : s.Numeric :=
  ⟨isNaN_of_isFinite h.interval, isNaN_of_isFinite h.ease⟩

/-- Whether a scheduler records the answers to finite states in numbers. -/
def Scheduler.Numeric (scheduler : Scheduler) : Prop :=
  ∀ {state next : SchedulingState} {rating : Rating} {now : Timestamp} {review : Review},
    scheduler.answer? state rating now = some (next, review) → state.Finite → review.Numeric

/-- Whether a scheduler leads from finite states to finite states. -/
def Scheduler.Finite (scheduler : Scheduler) : Prop :=
  ∀ {state next : SchedulingState} {rating : Rating} {now : Timestamp} {review : Review},
    scheduler.answer? state rating now = some (next, review) → state.Finite → next.Finite

/-! ## SM-2 -/

namespace Sm2

/-- The greater of two doubles is a number if the second is. -/
theorem isNaN_greater {a b : Float} (h : b.isNaN = false) : (greater a b).isNaN = false := by
  unfold greater
  split_ifs with ha hb hlt
  · exact h
  · exact Bool.eq_false_iff.mpr ha
  · exact h
  · exact Bool.eq_false_iff.mpr ha

/-- The greater of two finite doubles is finite. -/
theorem isFinite_greater {a b : Float} (ha : a.isFinite = true) (hb : b.isFinite = true) :
    (greater a b).isFinite = true := by
  unfold greater
  split_ifs
  · exact hb
  · exact ha
  · exact hb
  · exact ha

variable {p : Sm2} {s : SchedulingState} {rating : Rating}

/-! ### Steps -/

theorem numeric_learn (graduating : p.graduatingInterval.isNaN = false)
    (easy : p.easyInterval.isNaN = false) (h : s.Numeric) :
    (p.learn s rating).interval.isNaN = false ∧ (p.learn s rating).ease.isNaN = false := by
  have hzero : (0.0 : Float).isNaN = false := by decide +kernel
  cases rating with
  | again => exact ⟨hzero, h.ease⟩
  | hard => exact ⟨hzero, h.ease⟩
  | good => exact ⟨graduating, h.ease⟩
  | easy => exact ⟨easy, h.ease⟩

/-- In review the lower limits are numbers, so no step leaves what is none. -/
theorem numeric_review (minimum : p.minimumEase.isNaN = false) :
    (p.review s rating).interval.isNaN = false ∧ (p.review s rating).ease.isNaN = false := by
  have hone : (1.0 : Float).isNaN = false := by decide +kernel
  cases rating with
  | again => exact ⟨hone, isNaN_greater minimum⟩
  | hard | good | easy => exact ⟨isNaN_greater hone, isNaN_greater minimum⟩

theorem numeric_step (minimum : p.minimumEase.isNaN = false)
    (graduating : p.graduatingInterval.isNaN = false) (easy : p.easyInterval.isNaN = false)
    (h : s.Numeric) :
    (p.step s rating).interval.isNaN = false ∧ (p.step s rating).ease.isNaN = false := by
  unfold step
  split
  · exact numeric_learn graduating easy h
  · exact numeric_learn graduating easy h
  · exact numeric_review minimum
  · exact numeric_review minimum

/-- No step moves the ease by more than a little, so it stays finite. -/
theorem isFinite_ease_step (minimum : p.minimumEase.isFinite = true) (h : s.Finite) :
    (p.step s rating).ease.isFinite = true := by
  unfold step
  split
  · cases rating <;> exact h.ease
  · cases rating <;> exact h.ease
  all_goals
    cases rating with
    | again => exact isFinite_greater (isFinite_sub h.ease (by decide +kernel)) minimum
    | hard | good | easy => exact isFinite_greater (isFinite_add h.ease (by decide +kernel)) minimum

/-- An infinite interval has more days than any span of time. -/
theorem longestSpan_lt_wholeDays {interval : Float} (hnumber : interval.isNaN = false)
    (hinfinite : interval.isFinite = false) :
    Timestamp.longestSpan < (wholeDays interval).natAbs := by
  unfold wholeDays
  rw [if_neg (Bool.eq_false_iff.mp hnumber), ofFloat_of_infinite hnumber hinfinite]
  dsimp only
  split <;> decide +kernel

/-! ### Answers -/

/-- An answer with a due date has a finite interval. -/
theorem isFinite_interval_of_due {interval : Float} {now due : Timestamp}
    (hnumber : interval.isNaN = false) (h : now.addDays? (wholeDays interval) = some due) :
    interval.isFinite = true := by
  by_contra hinfinite
  have hlong := longestSpan_lt_wholeDays hnumber (Bool.eq_false_iff.mpr hinfinite)
  unfold Timestamp.addDays? at h
  dsimp only at h
  rw [if_neg fun hspan => absurd hspan.1 (by omega)] at h
  cases h

/-- **SM-2 records answers in numbers** if its lower limit of the ease and its first intervals are
numbers. -/
theorem numeric (p : Sm2) (minimum : p.minimumEase.isNaN = false)
    (graduating : p.graduatingInterval.isNaN = false) (easy : p.easyInterval.isNaN = false) :
    p.scheduler.Numeric := by
  intro state next rating now review answered before
  have answered : p.answer? state rating now = some (next, review) := answered
  have hstep := @numeric_step p state rating minimum graduating easy before.numeric
  have records := records_answer answered
  obtain ⟨due, -, rfl, -⟩ := answer?_eq_some_iff.mp answered
  exact records.numeric before.numeric ⟨hstep.1, hstep.2⟩

/-- **SM-2 leads from finite states to finite states** if its lower limit of the ease is finite and its
first intervals are numbers: the due date of an infinite interval could not be held. -/
theorem finite (p : Sm2) (minimum : p.minimumEase.isFinite = true)
    (graduating : p.graduatingInterval.isNaN = false) (easy : p.easyInterval.isNaN = false) :
    p.scheduler.Finite := by
  intro state next rating now review answered before
  have answered : p.answer? state rating now = some (next, review) := answered
  have hstep := @numeric_step p state rating (isNaN_of_isFinite minimum) graduating easy before.numeric
  obtain ⟨due, hdue, rfl, -⟩ := answer?_eq_some_iff.mp answered
  exact ⟨isFinite_interval_of_due hstep.1 hdue, isFinite_ease_step minimum before⟩

end Sm2

end Flashcard
