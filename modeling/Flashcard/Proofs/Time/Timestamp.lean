import Flashcard.Time.Timestamp

/-!
# Instants and milliseconds

Outside leap seconds, instants without a part below a millisecond are told apart and ordered by
their milliseconds.

- `Timestamp.isAtMost_iff`, `Timestamp.isAtMost_total` and their like: the order of instants.
- `Timestamp.Counted`: such instants.
- `Timestamp.isAtMost_iff_millis`, `Timestamp.eq_of_millis_eq`: their order and equality.
- `Timestamp.counted_addDays`: whole days later they still are.
-/

namespace Flashcard

namespace Timestamp

variable {t u v : Timestamp}

/-! ## Order -/

theorem isAtMost_iff : t.isAtMost u = true ↔
    t.second < u.second ∨ t.second = u.second ∧ t.nano ≤ u.nano := by
  simp [isAtMost]

theorem isAtMost_refl (t : Timestamp) : t.isAtMost t = true :=
  isAtMost_iff.mpr (Or.inr ⟨rfl, Nat.le_refl _⟩)

theorem isAtMost_total (t u : Timestamp) : t.isAtMost u = true ∨ u.isAtMost t = true := by
  rw [isAtMost_iff, isAtMost_iff]
  omega

theorem isAtMost_trans (htu : t.isAtMost u = true) (huv : u.isAtMost v = true) :
    t.isAtMost v = true := by
  rw [isAtMost_iff] at *
  omega

theorem isAtMost_antisymm (htu : t.isAtMost u = true) (hut : u.isAtMost t = true) : t = u := by
  rw [isAtMost_iff] at *
  cases t
  cases u
  rw [mk.injEq]
  dsimp only at *
  omega

/-! ## Milliseconds -/

/-- Whether an instant has no part below a millisecond. -/
def WholeMillis (t : Timestamp) : Prop := t.nano % 1000000 = 0

/-- Whether an instant is in a leap second. -/
def InLeapSecond (t : Timestamp) : Prop := nanosPerSecond ≤ t.nano

instance (t : Timestamp) : Decidable t.WholeMillis := inferInstanceAs (Decidable (_ = _))

instance (t : Timestamp) : Decidable t.InLeapSecond := inferInstanceAs (Decidable (_ ≤ _))

/-- Instants that are known by their milliseconds. -/
structure Counted (t : Timestamp) : Prop where
  whole : t.WholeMillis
  ordinary : ¬ t.InLeapSecond

theorem Counted.nano_lt (h : t.Counted) : t.nano < nanosPerSecond := Nat.not_le.mp h.ordinary

/-- The milliseconds of the second that belong to an instant. -/
theorem Counted.nano_eq (h : t.Counted) :
    t.nano = t.nano / 1000000 * 1000000 ∧ t.nano / 1000000 < 1000 := by
  have hwhole : t.nano % 1000000 = 0 := h.whole
  have hlt : t.nano < 1000000000 := h.nano_lt
  omega

theorem eq_of_millis_eq (ht : t.Counted) (hu : u.Counted) (h : t.millis = u.millis) : t = u := by
  obtain ⟨hnano, hlt⟩ := ht.nano_eq
  obtain ⟨hnano', hlt'⟩ := hu.nano_eq
  cases t
  cases u
  rw [mk.injEq]
  unfold millis at h
  dsimp only at *
  omega

theorem isAtMost_iff_millis (ht : t.Counted) (hu : u.Counted) :
    t.isAtMost u = true ↔ t.millis ≤ u.millis := by
  obtain ⟨hnano, hlt⟩ := ht.nano_eq
  obtain ⟨hnano', hlt'⟩ := hu.nano_eq
  rw [isAtMost_iff, millis, millis]
  omega

/-- Whole days later, an instant is still known by its milliseconds. -/
theorem counted_addDays (ht : t.Counted) {days : Int} (h : t.addDays? days = some u) :
    u.Counted := by
  have hlt : t.nano < nanosPerSecond := ht.nano_lt
  unfold addDays? at h
  simp only [hlt, decide_true, Bool.true_or, if_true] at h
  split at h
  · cases h
    exact ⟨ht.whole, ht.ordinary⟩
  · cases h

end Timestamp

end Flashcard
