/-!
# Maps kept in key order

A finite map is the list of its entries in strictly ascending key order, so two maps with the same
bindings are the same value and a listing of a map is always in the order of its keys.

- `SortedMap κ ν`: the type; `get?`, `insert`, `erase`, `ofList`, `keys`, `values`, `lastKey?`.
- `get?_insert`, `get?_erase`: each operation through the view `get?`.
- `ext_get?`: a map is determined by its look-ups.
-/

namespace Flashcard

/-- A finite map, held as its entries in strictly ascending key order. -/
structure SortedMap (κ : Type) (ν : Type) [Ord κ] where
  /-- The bindings, lowest key first. -/
  entries : List (κ × ν)
  ascending : entries.Pairwise (fun a b => compare a.1 b.1 = .lt)
  deriving DecidableEq

namespace SortedMap

variable {κ ν : Type} [Ord κ]

/-- The map with no bindings. -/
def empty : SortedMap κ ν := ⟨[], .nil⟩

instance : Inhabited (SortedMap κ ν) := ⟨empty⟩

/-- The value bound to `k` in a list of entries. -/
def lookup (k : κ) : List (κ × ν) → Option ν
  | [] => none
  | (k', v) :: rest => if compare k k' = .eq then some v else lookup k rest

/-- Puts the binding of `k` in its place, over any earlier one. -/
def insertEntry (k : κ) (v : ν) : List (κ × ν) → List (κ × ν)
  | [] => [(k, v)]
  | (k', v') :: rest =>
    match compare k k' with
    | .lt => (k, v) :: (k', v') :: rest
    | .eq => (k, v) :: rest
    | .gt => (k', v') :: insertEntry k v rest

/-- Drops the binding of `k`. -/
def eraseEntry (k : κ) (entries : List (κ × ν)) : List (κ × ν) :=
  entries.filter (fun e => compare k e.1 ≠ .eq)

/-- The value bound to `k`, if any. -/
def get? (m : SortedMap κ ν) (k : κ) : Option ν := lookup k m.entries

/-- The value bound to `k`, or `default`. -/
def getD (m : SortedMap κ ν) (k : κ) (default : ν) : ν := (m.get? k).getD default

/-- Whether `k` is bound. -/
def contains (m : SortedMap κ ν) (k : κ) : Bool := (m.get? k).isSome

/-- The bound keys, ascending. -/
def keys (m : SortedMap κ ν) : List κ := m.entries.map (·.1)

/-- The bound values, in the order of their keys. -/
def values (m : SortedMap κ ν) : List ν := m.entries.map (·.2)

/-- Whether nothing is bound. -/
def isEmpty (m : SortedMap κ ν) : Bool := m.entries.isEmpty

/-- The highest bound key. -/
def lastKey? (m : SortedMap κ ν) : Option κ := m.keys.getLast?

/-- Removes the binding of `k`, if there is one. -/
def erase (m : SortedMap κ ν) (k : κ) : SortedMap κ ν :=
  ⟨eraseEntry k m.entries, m.ascending.filter _⟩

theorem mem_insertEntry {k : κ} {v : ν} {e : κ × ν} {entries : List (κ × ν)}
    (h : e ∈ insertEntry k v entries) : e = (k, v) ∨ e ∈ entries := by
  induction entries with
  | nil => exact Or.inl (by simpa [insertEntry] using h)
  | cons head rest ih =>
    obtain ⟨k', v'⟩ := head
    rw [insertEntry] at h
    split at h
    · simpa using h
    · rcases List.mem_cons.mp h with h | h
      · exact Or.inl h
      · exact Or.inr (List.mem_cons_of_mem _ h)
    · rcases List.mem_cons.mp h with h | h
      · exact Or.inr (h ▸ List.mem_cons_self ..)
      · exact (ih h).imp_right (List.mem_cons_of_mem _)

section Lawful

variable [Std.TransOrd κ]

theorem insertEntry_ascending (k : κ) (v : ν) {entries : List (κ × ν)}
    (h : entries.Pairwise (fun a b => compare a.1 b.1 = .lt)) :
    (insertEntry k v entries).Pairwise (fun a b => compare a.1 b.1 = .lt) := by
  induction entries with
  | nil => exact List.pairwise_singleton _ _
  | cons head rest ih =>
    obtain ⟨k', v'⟩ := head
    obtain ⟨hhead, hrest⟩ := List.pairwise_cons.mp h
    rw [insertEntry]
    split
    · next hlt =>
      refine List.pairwise_cons.mpr ⟨fun e he => ?_, h⟩
      rcases List.mem_cons.mp he with rfl | he
      · exact hlt
      · exact Std.TransCmp.lt_trans hlt (hhead e he)
    · next heq =>
      exact List.pairwise_cons.mpr
        ⟨fun e he => Std.TransCmp.lt_of_eq_of_lt heq (hhead e he), hrest⟩
    · next hgt =>
      refine List.pairwise_cons.mpr ⟨fun e he => ?_, ih hrest⟩
      rcases mem_insertEntry he with rfl | he
      · exact Std.OrientedCmp.lt_of_gt hgt
      · exact hhead e he

/-- Binds `k` to `v`, over any earlier binding. -/
def insert (m : SortedMap κ ν) (k : κ) (v : ν) : SortedMap κ ν :=
  ⟨insertEntry k v m.entries, insertEntry_ascending k v m.ascending⟩

/-- The map of the given bindings; of two for one key the later one counts. -/
def ofList (bindings : List (κ × ν)) : SortedMap κ ν :=
  bindings.foldl (fun m b => m.insert b.1 b.2) empty

/-- All bindings of both maps; where both bind a key, that of `later` counts. -/
def merge (m later : SortedMap κ ν) : SortedMap κ ν :=
  later.entries.foldl (fun m b => m.insert b.1 b.2) m

end Lawful

/-! ## Look-ups -/

@[simp] theorem get?_empty (k : κ) : (empty : SortedMap κ ν).get? k = none := rfl

section Lookups

variable [Std.LawfulEqOrd κ] [DecidableEq κ]

theorem lookup_insertEntry (k j : κ) (v : ν) (entries : List (κ × ν)) :
    lookup j (insertEntry k v entries) = if j = k then some v else lookup j entries := by
  induction entries with
  | nil => simp [insertEntry, lookup]
  | cons head rest ih =>
    obtain ⟨k', v'⟩ := head
    rw [insertEntry]
    split
    · simp [lookup]
    · next heq =>
      obtain rfl := Std.compare_eq_iff_eq.mp heq
      by_cases h : j = k <;> simp [lookup, h]
    · next hgt =>
      have hne : k ≠ k' := fun h => by simp [h] at hgt
      by_cases h : j = k'
      · subst h
        simp [lookup, Ne.symm hne]
      · simp [lookup, h, ih]

/-- After binding `k`, look-ups of `k` give the new value and all others are as before. -/
theorem get?_insert [Std.TransOrd κ] (m : SortedMap κ ν) (k j : κ) (v : ν) :
    (m.insert k v).get? j = if j = k then some v else m.get? j :=
  lookup_insertEntry k j v m.entries

@[simp] theorem get?_insert_self [Std.TransOrd κ] (m : SortedMap κ ν) (k : κ) (v : ν) :
    (m.insert k v).get? k = some v := by simp [get?_insert]

theorem get?_insert_of_ne [Std.TransOrd κ] (m : SortedMap κ ν) {k j : κ} (v : ν) (h : j ≠ k) :
    (m.insert k v).get? j = m.get? j := by simp [get?_insert, h]

theorem lookup_eraseEntry (k j : κ) (entries : List (κ × ν)) :
    lookup j (eraseEntry k entries) = if j = k then none else lookup j entries := by
  induction entries with
  | nil => simp [eraseEntry, lookup]
  | cons head rest ih =>
    obtain ⟨k', v'⟩ := head
    rw [eraseEntry, List.filter_cons] at *
    by_cases h : k = k'
    · subst h
      by_cases hj : j = k
      · subst hj
        simpa using ih
      · simpa [lookup, hj] using ih
    · by_cases hj : j = k'
      · subst hj
        simp [lookup, h, Ne.symm h]
      · simpa [lookup, h, hj] using ih

/-- After dropping `k`, look-ups of `k` find nothing and all others are as before. -/
theorem get?_erase (m : SortedMap κ ν) (k j : κ) :
    (m.erase k).get? j = if j = k then none else m.get? j :=
  lookup_eraseEntry k j m.entries

omit [DecidableEq κ] in
theorem lookup_eq_some_of_mem {entries : List (κ × ν)}
    (h : entries.Pairwise (fun a b => compare a.1 b.1 = .lt)) {e : κ × ν} (he : e ∈ entries) :
    lookup e.1 entries = some e.2 := by
  induction entries with
  | nil => cases he
  | cons head rest ih =>
    obtain ⟨hhead, hrest⟩ := List.pairwise_cons.mp h
    rcases List.mem_cons.mp he with rfl | he
    · simp [lookup]
    · have hne : e.1 ≠ head.1 := fun heq => by
        have hlt := hhead e he
        rw [heq] at hlt
        simp at hlt
      simpa [lookup, hne] using ih hrest he

theorem mem_of_lookup_eq_some {entries : List (κ × ν)} {k : κ} {v : ν}
    (h : lookup k entries = some v) : (k, v) ∈ entries := by
  induction entries with
  | nil => simp [lookup] at h
  | cons head rest ih =>
    obtain ⟨k', v'⟩ := head
    by_cases hk : k = k'
    · subst hk
      simp only [lookup, Std.ReflOrd.compare_self, if_true, Option.some.injEq] at h
      subst h
      exact List.mem_cons_self ..
    · simp only [lookup, Std.compare_eq_iff_eq, hk, if_false] at h
      exact List.mem_cons_of_mem _ (ih h)

/-- A binding is found by look-up exactly when it is one of the entries. -/
theorem get?_eq_some_iff {m : SortedMap κ ν} {k : κ} {v : ν} :
    m.get? k = some v ↔ (k, v) ∈ m.entries :=
  ⟨mem_of_lookup_eq_some, lookup_eq_some_of_mem m.ascending⟩

omit [Std.LawfulEqOrd κ] [DecidableEq κ] in
theorem lookup_eq_none_of_lt {k : κ} {entries : List (κ × ν)}
    (h : ∀ e ∈ entries, compare k e.1 = .lt) : lookup k entries = none := by
  induction entries with
  | nil => rfl
  | cons head rest ih =>
    have hlt := h head (List.mem_cons_self ..)
    rw [lookup, if_neg (by simp [hlt])]
    exact ih fun e he => h e (List.mem_cons_of_mem _ he)

theorem eq_of_lookup_eq [Std.TransOrd κ] {l₁ l₂ : List (κ × ν)}
    (h₁ : l₁.Pairwise (fun a b => compare a.1 b.1 = .lt))
    (h₂ : l₂.Pairwise (fun a b => compare a.1 b.1 = .lt))
    (h : ∀ k, lookup k l₁ = lookup k l₂) : l₁ = l₂ := by
  induction l₁ generalizing l₂ with
  | nil =>
    cases l₂ with
    | nil => rfl
    | cons b bs => simpa [lookup] using h b.1
  | cons a as ih =>
    obtain ⟨ha, has⟩ := List.pairwise_cons.mp h₁
    cases l₂ with
    | nil => simpa [lookup] using h a.1
    | cons b bs =>
      obtain ⟨hb, hbs⟩ := List.pairwise_cons.mp h₂
      -- the two lowest keys agree, since each is found in the other list
      have hkey : a.1 = b.1 := by
        have hamem : (a.1, a.2) ∈ b :: bs :=
          mem_of_lookup_eq_some ((h a.1).symm.trans (by simp [lookup]))
        have hbmem : (b.1, b.2) ∈ a :: as :=
          mem_of_lookup_eq_some ((h b.1).trans (by simp [lookup]))
        rcases List.mem_cons.mp hamem with heq | hin
        · rw [← heq]
        · rcases List.mem_cons.mp hbmem with heq | hin'
          · rw [← heq]
          · have hlt := hb _ hin
            have hgt := ha _ hin'
            have := Std.TransCmp.lt_trans hlt hgt
            simp at this
      have hval : a.2 = b.2 := by
        have := h a.1
        simpa [lookup, hkey] using this
      have hrest : as = bs := by
        refine ih has hbs fun k => ?_
        by_cases hk : k = a.1
        · subst hk
          rw [lookup_eq_none_of_lt ha, lookup_eq_none_of_lt (hkey ▸ hb)]
        · have := h k
          simpa [lookup, hk, hkey ▸ hk] using this
      rw [hrest, show a = b from Prod.ext hkey hval]

/-- A map is determined by its look-ups. -/
theorem ext_get? [Std.TransOrd κ] {m₁ m₂ : SortedMap κ ν} (h : ∀ k, m₁.get? k = m₂.get? k) :
    m₁ = m₂ := by
  obtain ⟨l₁, h₁⟩ := m₁
  obtain ⟨l₂, h₂⟩ := m₂
  congr 1
  exact eq_of_lookup_eq h₁ h₂ h

end Lookups

end SortedMap

end Flashcard
