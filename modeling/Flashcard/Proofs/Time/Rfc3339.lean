import Flashcard.Proofs.Steps
import Flashcard.Proofs.Text
import Flashcard.Proofs.Time.Calendar
import Flashcard.Time.Rfc3339

/-!
# Timestamps through text

What a column holds of an instant is read as that instant again where the years 0000 to 9999 have
it, unless it is in a leap second that no minute ends with.

- `Timestamp.readFixed_padded`, `Timestamp.readFraction_render`: the parts of a text.
- `Timestamp.readExact_renderOffset`: the whole of it.
- `Timestamp.Expressible`, `Timestamp.readExact_renderOffset_iff`: the instants that are read as
  they were written.
-/

namespace Flashcard

namespace Timestamp

/-! ## Numbers of a fixed width -/

section Padded

variable {width n : Nat}

theorem toList_padded (width n : Nat) :
    (padded width n).toList =
      List.replicate (width - (Nat.toDigits 10 n).length) '0' ++ Nat.toDigits 10 n :=
  String.toList_ofList

theorem length_padded (pos : 0 < width) (h : n < 10 ^ width) :
    (padded width n).toList.length = width := by
  have hle := (Nat.length_toDigits_le_iff (b := 10) (by decide) pos).mpr h
  rw [toList_padded, List.length_append, List.length_replicate]
  omega

theorem isDigit_of_mem_padded {c : Char} (h : c ∈ (padded width n).toList) :
    c.isDigit = true := by
  rw [toList_padded] at h
  rcases List.mem_append.mp h with h | h
  · rw [(List.mem_replicate.mp h).2]
    rfl
  · exact Nat.isDigit_of_mem_toDigits (by decide) (by decide) h

theorem digitsValue_padded (width n : Nat) : Text.digitsValue (padded width n).toList = n := by
  rw [Text.digitsValue_eq, toList_padded, Nat.ofDigitChars_append, Nat.ofDigitChars_replicate_zero,
    Nat.mul_zero, Nat.ofDigitChars_ten_toDigits]

/-- The digits of a number are read as far as they may go. -/
theorem readDigits_padded (pos : 0 < width) (h : n < 10 ^ width) {limit : Nat}
    (fits : width ≤ limit) {rest : List Char}
    (stop : limit = width ∨ ∃ c cs, rest = c :: cs ∧ c.isDigit = false) :
    readDigits limit ((padded width n).toList ++ rest) = pure ((padded width n).toList, rest) := by
  have hlength := length_padded pos h
  -- digits end where the width does, at the limit or at another character
  have hdigits : (((padded width n).toList ++ rest).take limit).takeWhile Char.isDigit =
      (padded width n).toList := by
    rw [List.take_append, List.take_of_length_le (by omega), hlength,
      List.takeWhile_append_of_pos fun c hc => isDigit_of_mem_padded hc]
    rcases stop with rfl | ⟨c, cs, rfl, hc⟩
    · simp
    · cases limit - width with
      | zero => simp
      | succ k => simp [hc]
  have hempty : (padded width n).toList.isEmpty = false := by
    rw [List.isEmpty_eq_false_iff_exists_mem]
    exact List.exists_mem_of_length_pos (by omega)
  rw [readDigits, hdigits, hempty, List.drop_left]
  rfl

theorem readFixed_padded (pos : 0 < width) (h : n < 10 ^ width) (rest : List Char) :
    readFixed width ((padded width n).toList ++ rest) = pure (n, rest) := by
  rw [readFixed, readDigits_padded pos h (Nat.le_refl width) (Or.inl rfl), pure_bind]
  dsimp only
  rw [if_pos (length_padded pos h), digitsValue_padded]

end Padded

/-! ## Fractions -/

theorem readFraction_padded {width n : Nat} (pos : 0 < width) (h : n < 10 ^ width)
    (fits : width ≤ 9) {c : Char} {cs : List Char} (stop : c.isDigit = false) :
    readFraction ('.' :: ((padded width n).toList ++ c :: cs)) =
      pure (n * 10 ^ (9 - width), c :: cs) := by
  rw [readFraction, readDigits_padded pos h fits (Or.inr ⟨c, cs, rfl, stop⟩), pure_bind]
  dsimp only
  rw [digitsValue_padded, length_padded pos h, List.dropWhile_cons_of_neg (by simp [stop])]
  rfl

/-- The fraction of a second is read as it was written. -/
theorem readFraction_render {nano : Nat} (h : nano < nanosPerSecond) {c : Char} {cs : List Char}
    (stop : c.isDigit = false) (hpoint : c ≠ '.') :
    readFraction ((renderFraction nano).toList ++ c :: cs) = pure (nano, c :: cs) := by
  have h : nano < 1000000000 := h
  have hpart : ∀ width n, (("." ++ padded width n).toList ++ c :: cs) =
      '.' :: ((padded width n).toList ++ c :: cs) := by
    intro width n
    rw [String.toList_append]
    rfl
  unfold renderFraction
  -- no fraction, or one of three, six or nine digits
  split
  · next hzero =>
    rw [hzero]
    show readFraction (c :: cs) = _
    unfold readFraction
    split
    · next heq => exact absurd (List.cons.inj heq).1 hpoint
    · rfl
  · split
    · rw [hpart, readFraction_padded (by decide) (by omega) (by decide) stop]
      congr 2
      omega
    · split
      · rw [hpart, readFraction_padded (by decide) (by omega) (by decide) stop]
        congr 2
        omega
      · rw [hpart, readFraction_padded (by decide) h (by decide) stop]
        congr 2
        omega

/-! ## Instants -/

/-- Whether an instant lies in the years 0000 to 9999. -/
def InYears (t : Timestamp) : Prop :=
  0 ≤ (Date.ofDay (t.second / secondsPerDay)).year ∧
    (Date.ofDay (t.second / secondsPerDay)).year ≤ 9999

instance (t : Timestamp) : Decidable t.InYears := inferInstanceAs (Decidable (_ ∧ _))

/-- Instants of those years can be held. -/
theorem InYears.inRange {t : Timestamp} (h : t.InYears) :
    firstYear ≤ (Date.ofDay (t.second / secondsPerDay)).year ∧
      (Date.ofDay (t.second / secondsPerDay)).year ≤ lastYear ∧ inRange t.second = true := by
  obtain ⟨hge, hle⟩ := h
  refine ⟨Int.le_trans (by decide) hge, Int.le_trans hle (by decide), ?_⟩
  have hyear := Date.ofDay_year (t.second / secondsPerDay)
  -- from here on only the year matters: the day lies between the first days of two years
  generalize (Date.ofDay (t.second / secondsPerDay)).year = year at hge hle hyear
  have hepoch : Date.epochDay = 719528 := by decide
  have hfirst : Date.toDay ⟨firstYear, 1, 1⟩ * secondsPerDay = -8334601228800 := by decide
  have hlast : Date.toDay ⟨lastYear + 1, 1, 1⟩ * secondsPerDay = 8210266876800 := by decide
  unfold Date.daysBeforeYear secondsPerDay at hyear
  rw [Timestamp.inRange, hfirst, hlast]
  simp only [Bool.and_eq_true, decide_eq_true_eq]
  omega

/-- The second of the minute and the nanoseconds that the text of an instant shows. A leap second has
the number after that of the second before it. -/
def shown (t : Timestamp) : Nat × Nat :=
  if t.nano < nanosPerSecond then ((t.second % secondsPerDay).toNat % 60, t.nano)
  else ((t.second % secondsPerDay).toNat % 60 + 1, t.nano - nanosPerSecond)

/-- The text of an instant of those years. -/
theorem toList_renderOffset {t : Timestamp} (years : t.InYears) :
    t.renderOffset.toList =
      (padded 4 (Date.ofDay (t.second / secondsPerDay)).year.toNat).toList ++ '-' ::
      ((padded 2 (Date.ofDay (t.second / secondsPerDay)).month).toList ++ '-' ::
      ((padded 2 (Date.ofDay (t.second / secondsPerDay)).day).toList ++ 'T' ::
      ((padded 2 ((t.second % secondsPerDay).toNat / 3600)).toList ++ ':' ::
      ((padded 2 ((t.second % secondsPerDay).toNat / 60 % 60)).toList ++ ':' ::
      ((padded 2 t.shown.1).toList ++
      ((renderFraction t.shown.2).toList ++ "+00:00".toList)))))) := by
  rw [renderOffset, renderWith, ← shown]
  dsimp only
  rw [renderYear, if_pos (And.intro years.1 years.2)]
  have hdash : "-".toList = ['-'] := rfl
  have htime : "T".toList = ['T'] := rfl
  have hcolon : ":".toList = [':'] := rfl
  simp only [String.toList_append, List.append_assoc, hdash, htime, hcolon, List.cons_append,
    List.nil_append]

/-- A text of the fixed layout is read part by part. -/
theorem readExact_of_toList {text : String} {year month day hour minute second nano : Nat}
    (hyear : year < 10 ^ 4) (hmonth : month < 10 ^ 2) (hday : day < 10 ^ 2) (hhour : hour < 10 ^ 2)
    (hminute : minute < 10 ^ 2) (hsecond : second < 10 ^ 2) (hnano : nano < nanosPerSecond)
    (htext : text.toList = (padded 4 year).toList ++ '-' :: ((padded 2 month).toList ++ '-' ::
      ((padded 2 day).toList ++ 'T' :: ((padded 2 hour).toList ++ ':' ::
      ((padded 2 minute).toList ++ ':' :: ((padded 2 second).toList ++
      ((renderFraction nano).toList ++ "+00:00".toList))))))) :
    readExact text = ofParts ⟨year, month, day⟩ hour minute second nano 0 := by
  have hlong : ¬ text.toList.length < 19 := by
    rw [htext]
    simp only [List.length_append, List.length_cons]
    rw [length_padded (by decide) hyear, length_padded (by decide) hmonth,
      length_padded (by decide) hday, length_padded (by decide) hhour,
      length_padded (by decide) hminute, length_padded (by decide) hsecond]
    omega
  have hfraction : readFraction ((renderFraction nano).toList ++ "+00:00".toList) =
      pure (nano, "+00:00".toList) :=
    readFraction_render hnano (by decide) (by decide)
  have hoffset : readOffset false "+00:00".toList = pure (0, []) := by rfl
  have hone : ∀ (c : Char) (allowed rest : List Char), allowed.contains c = true →
      readOneOf allowed (c :: rest) = pure rest := by
    intro c allowed rest hc
    rw [readOneOf, if_pos hc]
  -- each part leaves the text behind it to the next one
  rw [readExact]
  dsimp only
  rw [if_neg hlong, htext]
  simp only [readFixed_padded (Nat.zero_lt_succ _) hyear,
    readFixed_padded (Nat.zero_lt_succ _) hmonth, readFixed_padded (Nat.zero_lt_succ _) hday,
    readFixed_padded (Nat.zero_lt_succ _) hhour, readFixed_padded (Nat.zero_lt_succ _) hminute,
    readFixed_padded (Nat.zero_lt_succ _) hsecond, pure_bind, hfraction, hoffset,
    hone '-' ['-'] _ rfl, hone 'T' ['T', 't', ' '] _ rfl, hone ':' [':'] _ rfl]
  rfl

/-- The parts of an instant of those years make it up again. -/
theorem ofParts_ofDay {t : Timestamp} (years : t.InYears) {hour minute second nano : Nat}
    (hhour : hour < 24) (hminute : minute < 60) (hsecond : second ≤ 60)
    (hutc : t.second / secondsPerDay * secondsPerDay +
      (hour * 3600 + minute * 60 + min second 59 : Nat) = t.second)
    (hnano : (if second = 60 then nano + nanosPerSecond else nano) = t.nano) :
    ofParts (Date.ofDay (t.second / secondsPerDay)) hour minute second nano 0 = .ok t := by
  obtain ⟨hfirst, hlast, hrange⟩ := years.inRange
  have hpair : (if second = 60 then (59, nano + nanosPerSecond) else (second, nano)) =
      (min second 59, t.nano) := by
    rw [← hnano]
    split
    · next h => rw [h]; rfl
    · rw [Nat.min_eq_left (by omega)]
  rw [ofParts, if_pos ⟨Date.isValid_ofDay _, hhour, hminute, hsecond, by decide, by decide⟩, hpair]
  dsimp only
  rw [Date.toDay_ofDay, hutc, Int.sub_zero, if_pos ⟨hfirst, hlast, hrange⟩]
  rfl

/-- The seconds of a day up to an instant. -/
theorem second_eq (t : Timestamp) :
    (t.second % secondsPerDay).toNat < 86400 ∧
      t.second = t.second / secondsPerDay * secondsPerDay + (t.second % secondsPerDay).toNat ∧
      t.second % 60 = ((t.second % secondsPerDay).toNat % 60 : Nat) := by
  unfold secondsPerDay
  omega

/-- The parts that the text of an instant shows are those of the instant, except that they make a
leap second within a minute the second after it. -/
theorem ofParts_shown {t : Timestamp} (years : t.InYears) :
    ofParts (Date.ofDay (t.second / secondsPerDay)) ((t.second % secondsPerDay).toNat / 3600)
        ((t.second % secondsPerDay).toNat / 60 % 60) t.shown.1 t.shown.2 0 =
      .ok (if t.nano < nanosPerSecond ∨ t.second % 60 = 59 then t
        else ⟨t.second + 1, t.nano - nanosPerSecond⟩) := by
  obtain ⟨htime, hutc, hminute⟩ := t.second_eq
  unfold shown
  by_cases hordinary : t.nano < nanosPerSecond
  · rw [if_pos hordinary, if_pos (Or.inl hordinary)]
    dsimp only
    exact ofParts_ofDay years (by omega) (by omega) (by omega) (by omega) (if_neg (by omega))
  · rw [if_neg hordinary]
    by_cases hend : t.second % 60 = 59
    · -- the sixty-first second of a minute
      have hlast : (t.second % secondsPerDay).toNat % 60 + 1 = 60 := by omega
      rw [if_pos (Or.inr hend), hlast]
      dsimp only
      refine ofParts_ofDay years (by omega) (by omega) (Nat.le_refl _) (by omega) ?_
      rw [if_pos rfl]
      omega
    · -- a second that the minute has in any case
      have hsame : (t.second + 1) / secondsPerDay = t.second / secondsPerDay := by
        unfold secondsPerDay
        omega
      have hyears : InYears ⟨t.second + 1, t.nano - nanosPerSecond⟩ := by
        unfold InYears
        rwa [hsame]
      have hparts := @ofParts_ofDay ⟨t.second + 1, t.nano - nanosPerSecond⟩ hyears
      dsimp only at hparts ⊢
      rw [hsame] at hparts
      rw [if_neg (by omega)]
      exact hparts (by omega) (by omega) (by omega) (by omega) (if_neg (by omega))

/-- **What a column holds of an instant is read as that instant**, except that a leap second within
a minute is taken for the second after it. -/
theorem readExact_renderOffset {t : Timestamp} (years : t.InYears)
    (h : t.nano < 2 * nanosPerSecond) :
    readExact t.renderOffset =
      .ok (if t.nano < nanosPerSecond ∨ t.second % 60 = 59 then t
        else ⟨t.second + 1, t.nano - nanosPerSecond⟩) := by
  obtain ⟨hmonth, hday⟩ := Date.ofDay_lt (t.second / secondsPerDay)
  have hyear : (Date.ofDay (t.second / secondsPerDay)).year.toNat < 10 ^ 4 := by
    obtain ⟨-, hle⟩ := years
    omega
  have htime := t.second_eq.1
  have hsecond : t.shown.1 < 10 ^ 2 := by
    unfold shown
    split <;> dsimp only <;> omega
  have hnano : t.shown.2 < nanosPerSecond := by
    unfold shown
    split
    · assumption
    · dsimp only
      omega
  have hdate : (⟨(Date.ofDay (t.second / secondsPerDay)).year.toNat,
      (Date.ofDay (t.second / secondsPerDay)).month, (Date.ofDay (t.second / secondsPerDay)).day⟩ :
        Date) = Date.ofDay (t.second / secondsPerDay) := by
    rw [Int.toNat_of_nonneg years.1]
  rw [readExact_of_toList hyear hmonth hday (by omega) (by omega) hsecond hnano
    (toList_renderOffset years), hdate]
  exact ofParts_shown years

/-! ## Instants that a column cannot hold -/

theorem readFixed_ne_ok {width : Nat} {c : Char} {cs : List Char} (h : c.isDigit = false)
    (read : Nat × List Char) : readFixed width (c :: cs) ≠ .ok read := by
  have hnone : ((c :: cs).take width).takeWhile Char.isDigit = [] := by
    cases width <;> simp [h]
  rw [readFixed, readDigits, hnone]
  nofun

/-- What is read of a number are digits, as many as allowed. -/
theorem readDigits_spec {width : Nat} {cs digits rest : List Char}
    (h : readDigits width cs = .ok (digits, rest)) :
    digits.length ≤ width ∧ ∀ c ∈ digits, c.isDigit = true := by
  unfold readDigits at h
  dsimp only at h
  split at h
  · cases h
  · obtain ⟨rfl, -⟩ := Prod.mk.inj (pure_eq_ok.mp h)
    exact ⟨Nat.le_trans (List.takeWhile_sublist _).length_le (List.length_take_le ..),
      List.all_eq_true.mp List.all_takeWhile⟩

theorem readFraction_lt {cs rest : List Char} {nano : Nat}
    (h : readFraction cs = .ok (nano, rest)) : nano < nanosPerSecond := by
  unfold readFraction at h
  split at h
  · obtain ⟨⟨digits, tail⟩, hread, h⟩ := bind_eq_ok.mp h
    obtain ⟨rfl, -⟩ := Prod.mk.inj (pure_eq_ok.mp h)
    obtain ⟨hlength, hdigits⟩ := readDigits_spec hread
    calc Text.digitsValue digits * 10 ^ (9 - digits.length)
        < 10 ^ digits.length * 10 ^ (9 - digits.length) :=
          Nat.mul_lt_mul_of_pos_right (Text.digitsValue_lt hdigits) (Nat.pow_pos (by decide))
      _ = nanosPerSecond := by
          rw [← Nat.pow_add, Nat.add_sub_cancel' hlength]
          rfl
  · obtain ⟨rfl, -⟩ := Prod.mk.inj (pure_eq_ok.mp h)
    decide

/-- Nothing is read from what a column holds of an instant of other years. -/
theorem inYears_of_readExact {t u : Timestamp} (h : readExact t.renderOffset = .ok u) :
    t.InYears := by
  by_contra hyears
  -- the text begins with a sign, where a digit is asked for
  obtain ⟨c, cs, htext, hc⟩ : ∃ c cs, t.renderOffset.toList = c :: cs ∧ c.isDigit = false := by
    rw [renderOffset, renderWith]
    dsimp only
    rw [renderYear]
    change ¬ (_ ∧ _) at hyears
    rw [if_neg hyears]
    simp only [String.toList_append, List.append_assoc]
    split
    · exact ⟨'-', _, rfl, by decide⟩
    · exact ⟨'+', _, rfl, by decide⟩
  unfold readExact at h
  rw [htext] at h
  simp only [guard_eq_ok, bind_eq_ok] at h
  obtain ⟨-, read, hread, -⟩ := h
  exact readFixed_ne_ok hc read hread

theorem nano_lt_of_ofParts {date : Date} {hour minute second nano : Nat} {offset : Int}
    {t : Timestamp} (h : ofParts date hour minute second nano offset = .ok t)
    (hnano : nano < nanosPerSecond) : t.nano < 2 * nanosPerSecond := by
  have hshown : (if second = 60 then (59, nano + nanosPerSecond) else (second, nano)).2 <
      2 * nanosPerSecond := by
    split <;> dsimp only <;> omega
  unfold ofParts at h
  dsimp only at h
  generalize (if second = 60 then (59, nano + nanosPerSecond) else (second, nano)) = parts at *
  split at h
  · split at h
    · obtain rfl := pure_eq_ok.mp h
      exact hshown
    · cases h
  · cases h

theorem nano_lt_of_readExact {text : String} {t : Timestamp} (h : readExact text = .ok t) :
    t.nano < 2 * nanosPerSecond := by
  unfold readExact at h
  simp only [guard_eq_ok, bind_eq_ok] at h
  obtain ⟨-, year, -, _, -, month, -, _, -, day, -, _, -, hour, -, _, -, minute, -, _, -, second, -,
    nano, hnano, offset, -, -, hparts⟩ := h
  exact nano_lt_of_ofParts hparts (readFraction_lt hnano)

/-- Whether a column holds an instant: it lies in the years 0000 to 9999, and in no leap second but
one that a minute ends with. -/
structure Expressible (t : Timestamp) : Prop where
  years : t.InYears
  second : t.nano < nanosPerSecond ∨ t.second % 60 = 59 ∧ t.nano < 2 * nanosPerSecond

instance (t : Timestamp) : Decidable t.Expressible :=
  decidable_of_iff (_ ∧ _) ⟨fun h => ⟨h.1, h.2⟩, fun h => ⟨h.years, h.second⟩⟩

/-- **The instants that are read as they were written.** -/
theorem readExact_renderOffset_iff {t : Timestamp} :
    readExact t.renderOffset = .ok t ↔ t.Expressible := by
  constructor
  · intro h
    have hyears := inYears_of_readExact h
    have hnano := nano_lt_of_readExact h
    refine ⟨hyears, ?_⟩
    rw [readExact_renderOffset hyears hnano] at h
    by_cases hkept : t.nano < nanosPerSecond ∨ t.second % 60 = 59
    · exact hkept.imp_right fun hend => ⟨hend, hnano⟩
    · -- the second after it is another instant
      rw [if_neg hkept] at h
      have hsecond := congrArg second (Except.ok.inj h)
      dsimp only at hsecond
      omega
  · rintro ⟨years, hsecond⟩
    have hnano : t.nano < 2 * nanosPerSecond := by omega
    rw [readExact_renderOffset years hnano, if_pos (hsecond.imp_right And.left)]

end Timestamp

end Flashcard
