import Flashcard.Time.Calendar
import Mathlib.Algebra.Ring.Nat

/-!
# Days and dates

The two views of a date agree: a day is the day of its date, and the calendar has that date.

- `Date.yearOfDay_spec`: a day lies in its year.
- `Date.monthDay_spec`: a day of a year lies in its month.
- `Date.toDay_ofDay`, `Date.isValid_ofDay`: from a day to its date and back.
-/

namespace Flashcard

namespace Date

/-! ## Years -/

/-- The guess for the year of a day is off by one at most. -/
theorem yearOfDay_spec (day : Int) :
    daysBeforeYear (yearOfDay day) ≤ day ∧ day < daysBeforeYear (yearOfDay day + 1) := by
  unfold yearOfDay
  have hguess : 146097 * (400 * day / 146097) ≤ 400 * day ∧
      400 * day < 146097 * (400 * day / 146097) + 146097 := by omega
  generalize 400 * day / 146097 = guess at hguess
  dsimp only
  split
  · next h =>
    rw [Int.sub_add_cancel]
    refine ⟨?_, h⟩
    unfold daysBeforeYear
    omega
  · next hle =>
    split
    · next h =>
      refine ⟨h, ?_⟩
      unfold daysBeforeYear
      omega
    · next h => exact ⟨Int.not_lt.mp hle, Int.not_le.mp h⟩

theorem isLeapYear_iff {year : Int} :
    isLeapYear year = true ↔ year % 4 = 0 ∧ (year % 100 ≠ 0 ∨ year % 400 = 0) := by
  simp [isLeapYear]

/-- A year is as long as its months. -/
theorem daysBeforeYear_succ (year : Int) :
    daysBeforeYear (year + 1) = daysBeforeYear year + (monthLengths year).sum := by
  have hsum : (monthLengths year).sum = if isLeapYear year then 366 else 365 := by
    unfold monthLengths
    split <;> rfl
  rw [hsum]
  unfold daysBeforeYear
  split
  · next h =>
    have h := isLeapYear_iff.mp h
    omega
  · next h =>
    have h := mt isLeapYear_iff.mpr h
    omega

/-! ## Months -/

/-- A day of a list of months lies in one of them. -/
theorem monthDay_spec (lengths : List Nat) (month offset : Nat) (h : offset < lengths.sum) :
    ∃ k length day, monthDay month lengths offset = (month + k, day) ∧
      lengths[k]? = some length ∧ 1 ≤ day ∧ day ≤ length ∧
      (lengths.take k).sum + day = offset + 1 := by
  induction lengths generalizing month offset with
  | nil => cases h
  | cons length rest ih =>
    rw [List.sum_cons] at h
    rw [monthDay]
    split
    · next hlt => exact ⟨0, length, offset + 1, rfl, rfl, by omega, by omega, by simp⟩
    · next hge =>
      obtain ⟨k, length', day, hmonth, hlength, hpos, hle, hsum⟩ :=
        ih (month + 1) (offset - length) (by omega)
      refine ⟨k + 1, length', day, ?_, hlength, hpos, hle, ?_⟩
      · rw [hmonth, Nat.add_right_comm, Nat.add_assoc]
      · rw [List.take_succ_cons, List.sum_cons]
        omega

theorem foldl_add (lengths : List Nat) (start : Nat) :
    lengths.foldl (· + ·) start = lengths.sum + start := by
  induction lengths generalizing start with
  | nil => simp
  | cons length rest ih =>
    rw [List.foldl_cons, ih, List.sum_cons]
    omega

/-! ## Dates -/

/-- A day lies in the year of its date. -/
theorem ofDay_year (day : Int) :
    daysBeforeYear (ofDay day).year ≤ day + epochDay ∧
      day + epochDay < daysBeforeYear ((ofDay day).year + 1) :=
  yearOfDay_spec (day + epochDay)

/-- The date of a day, part by part. -/
theorem ofDay_spec (day : Int) :
    ∃ k length : Nat, (ofDay day).month = k + 1 ∧
      (monthLengths (ofDay day).year)[k]? = some length ∧
      1 ≤ (ofDay day).day ∧ (ofDay day).day ≤ length ∧
      daysBeforeYear (ofDay day).year +
        (((monthLengths (ofDay day).year).take k).sum + (ofDay day).day : Nat) =
          day + epochDay + 1 := by
  obtain ⟨hle, hlt⟩ := yearOfDay_spec (day + epochDay)
  rw [daysBeforeYear_succ] at hlt
  have hoffset : (day + epochDay - daysBeforeYear (yearOfDay (day + epochDay))).toNat <
      (monthLengths (yearOfDay (day + epochDay))).sum := by omega
  obtain ⟨k, length, dayOfMonth, hmonth, hlength, hpos, hle', hsum⟩ :=
    monthDay_spec _ 1 _ hoffset
  have hdate : ofDay day = ⟨yearOfDay (day + epochDay), 1 + k, dayOfMonth⟩ := by
    rw [ofDay]
    dsimp only
    rw [hmonth]
  rw [hdate]
  refine ⟨k, length, Nat.add_comm 1 k, hlength, hpos, hle', ?_⟩
  dsimp only
  omega

/-- **A day is the day of its date.** -/
theorem toDay_ofDay (day : Int) : (ofDay day).toDay = day := by
  obtain ⟨k, length, hmonth, -, -, -, hsum⟩ := ofDay_spec day
  rw [toDay, hmonth, Nat.add_sub_cancel, foldl_add]
  omega

/-- The calendar has the date of a day. -/
theorem isValid_ofDay (day : Int) : (ofDay day).isValid = true := by
  obtain ⟨k, length, hmonth, hlength, hpos, hle, -⟩ := ofDay_spec day
  rw [isValid, hmonth]
  dsimp only
  rw [hlength]
  simp [hpos, hle]

/-- Months and days have two digits. -/
theorem ofDay_lt (day : Int) : (ofDay day).month < 100 ∧ (ofDay day).day < 100 := by
  obtain ⟨k, length, hmonth, hlength, -, hle, -⟩ := ofDay_spec day
  have hk : k < 12 := by
    have := (List.getElem?_eq_some_iff.mp hlength).1
    simpa [monthLengths] using this
  have hmax : ∀ l ∈ monthLengths (ofDay day).year, l ≤ 31 := by
    unfold monthLengths
    split <;> decide
  have := hmax length (List.mem_of_getElem? hlength)
  omega

end Date

end Flashcard
