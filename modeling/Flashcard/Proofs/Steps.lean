import Mathlib.Data.List.Basic

/-!
# Steps that may fail

When a sequence of steps succeeds, and with what.

- `bind_eq_ok` and its like: one step after another.
- `forM_eq_ok`, `mapM_eq_ok`: one step for each element of a list.
- `mapM_concat_eq_ok`: a list with one more element.
-/

namespace Flashcard

variable {ε ε' α β : Type}

/-- A sequence of steps succeeds when each step does. -/
@[simp] theorem bind_eq_ok {x : Except ε α} {f : α → Except ε β} {b : β} :
    x >>= f = .ok b ↔ ∃ a, x = .ok a ∧ f a = .ok b := by
  cases x <;> simp [bind, Except.bind]

@[simp] theorem pure_eq_ok {a b : α} : (pure a : Except ε α) = .ok b ↔ a = b := by
  simp [pure, Except.pure]

@[simp] theorem throw_ne_ok {e : ε} {a : α} : (throw e : Except ε α) ≠ .ok a := nofun

/-- A refusal in front of other steps. -/
@[simp] theorem guard_eq_ok {c : Prop} [Decidable c] {e : ε} {f : α → Except ε β}
    {x : Except ε β} {b : β} : (if c then throw e >>= f else x) = .ok b ↔ ¬ c ∧ x = .ok b := by
  by_cases h : c <;> simp [h]

@[simp] theorem mapError_eq_ok {x : Except ε α} {f : ε → ε'} {a : α} :
    x.mapError f = .ok a ↔ x = .ok a := by
  cases x with
  | error e => exact ⟨nofun, nofun⟩
  | ok b =>
    constructor
    · rintro ⟨⟩
      rfl
    · rintro ⟨⟩
      rfl

theorem toOption_eq_some {x : Except ε α} {a : α} : x.toOption = some a ↔ x = .ok a := by
  cases x <;> simp [Except.toOption]

/-! ## Steps over a list -/

variable {l : List α}

theorem forM_eq_ok {f : α → Except ε Unit} (h : ∀ a ∈ l, f a = .ok ()) : l.forM f = .ok () := by
  induction l with
  | nil => rfl
  | cons a rest ih =>
    rw [List.forM_eq_forM, List.forM_cons, h a (List.mem_cons_self ..)]
    exact ih fun b hb => h b (List.mem_cons_of_mem _ hb)

variable {f : α → Except ε β}

/-- Steps that all succeed give what they give one by one. -/
theorem mapM_eq_filterMap (h : ∀ a ∈ l, ∃ b, f a = .ok b) :
    l.mapM f = .ok (l.filterMap fun a => (f a).toOption) := by
  induction l with
  | nil => rfl
  | cons a rest ih =>
    obtain ⟨b, hb⟩ := h a (List.mem_cons_self ..)
    have hrest := ih fun a' ha' => h a' (List.mem_cons_of_mem _ ha')
    rw [List.mapM_cons, hb]
    show (do pure (b :: (← rest.mapM f)) : Except ε (List β)) = _
    rw [hrest, List.filterMap_cons, hb]
    rfl

theorem mapM_eq_ok {g : α → β} (h : ∀ a ∈ l, f a = .ok (g a)) : l.mapM f = .ok (l.map g) := by
  rw [mapM_eq_filterMap fun a ha => ⟨g a, h a ha⟩]
  exact congrArg Except.ok (List.filterMap_eq_map_iff_forall_eq_some.mpr fun a ha =>
    toOption_eq_some.mpr (h a ha))

theorem mapM_concat_eq_ok {a : α} {b : β} {bs : List β} :
    (l ++ [a]).mapM f = .ok (bs ++ [b]) ↔ l.mapM f = .ok bs ∧ f a = .ok b := by
  rw [List.mapM_append, bind_eq_ok, List.mapM_cons, List.mapM_nil]
  constructor
  · rintro ⟨front, hfront, h⟩
    obtain ⟨back, hback, h⟩ := bind_eq_ok.mp h
    obtain ⟨b', hb, hback⟩ := bind_eq_ok.mp hback
    obtain rfl : [b'] = back := by simpa using hback
    obtain ⟨rfl, hlast⟩ := List.append_inj' (pure_eq_ok.mp h) rfl
    obtain ⟨rfl, -⟩ := List.cons.inj hlast
    exact ⟨hfront, hb⟩
  · rintro ⟨hfront, hb⟩
    refine ⟨bs, hfront, ?_⟩
    rw [hb]
    rfl

/-- Steps that succeed do so at each element. -/
theorem exists_of_mapM_eq_ok {bs : List β} (h : l.mapM f = .ok bs) : ∀ a ∈ l, ∃ b, f a = .ok b := by
  induction l generalizing bs with
  | nil => exact List.forall_mem_nil _
  | cons a rest ih =>
    rw [List.mapM_cons] at h
    obtain ⟨b, ha, h⟩ := bind_eq_ok.mp h
    obtain ⟨bs', hrest, -⟩ := bind_eq_ok.mp h
    exact List.forall_mem_cons.mpr ⟨⟨b, ha⟩, ih hrest⟩

end Flashcard
