import Flashcard.Store.Basic

/-!
# More on maps kept in key order

What the listings of a map have to do with its look-ups, and how a map goes along with another one
that holds a translation of each value.

- `mem_values_iff`, `get?_insert_eq_some_iff`, `contains_insert` and their like: listings, finds and
  tests through `get?`.
- `map_values_eq_keys`: values that know their own keys are told apart by them.
- `mapValues`: the map with each value translated; it commutes with every update.
- `Store.lt_nextId`: the id after the highest one is above all ids in use.
-/

namespace Flashcard

namespace SortedMap

variable {κ ν μ : Type} [Ord κ]

/-! ## Listings -/

section Listings

variable [Std.LawfulEqOrd κ] [DecidableEq κ]

/-- The values are what look-ups find. -/
theorem mem_values_iff {m : SortedMap κ ν} {v : ν} : v ∈ m.values ↔ ∃ k, m.get? k = some v := by
  constructor
  · intro h
    obtain ⟨⟨k, w⟩, hmem, rfl⟩ := List.mem_map.mp h
    exact ⟨k, get?_eq_some_iff.mpr hmem⟩
  · rintro ⟨k, h⟩
    exact List.mem_map.mpr ⟨(k, v), get?_eq_some_iff.mp h, rfl⟩

/-- The keys are where look-ups find something. -/
theorem mem_keys_iff {m : SortedMap κ ν} {k : κ} : k ∈ m.keys ↔ ∃ v, m.get? k = some v := by
  constructor
  · intro h
    obtain ⟨⟨j, v⟩, hmem, rfl⟩ := List.mem_map.mp h
    exact ⟨v, get?_eq_some_iff.mpr hmem⟩
  · rintro ⟨v, h⟩
    exact List.mem_map.mpr ⟨(k, v), get?_eq_some_iff.mp h, rfl⟩

/-- The entries of one key: there is one if the key is bound. -/
theorem filter_key (m : SortedMap κ ν) (k : κ) :
    m.entries.filter (·.1 == k) = (m.get? k).toList.map fun v => (k, v) := by
  obtain ⟨entries, ascending⟩ := m
  show entries.filter (·.1 == k) = (lookup k entries).toList.map fun v => (k, v)
  induction entries with
  | nil => rfl
  | cons head rest ih =>
    obtain ⟨k', v⟩ := head
    obtain ⟨hhead, hrest⟩ := List.pairwise_cons.mp ascending
    by_cases h : k = k'
    · subst h
      -- the keys behind it are higher
      have hnone : rest.filter (·.1 == k) = [] := by
        refine List.filter_eq_nil_iff.mpr fun e he heq => ?_
        have hlt := hhead e he
        rw [beq_iff_eq.mp heq] at hlt
        simp at hlt
      simp [lookup, hnone]
    · simp [lookup, h, Ne.symm h, ih hrest]

omit [Std.LawfulEqOrd κ] [DecidableEq κ] in
/-- A key is contained if a look-up finds something there. -/
theorem contains_iff {m : SortedMap κ ν} {k : κ} :
    m.contains k = true ↔ ∃ v, m.get? k = some v := Option.isSome_iff_exists

/-- Inserting adds one key. -/
theorem contains_insert [Std.TransOrd κ] {m : SortedMap κ ν} {k j : κ} {v : ν} :
    (m.insert k v).contains j = true ↔ j = k ∨ m.contains j = true := by
  rw [contains, get?_insert]
  by_cases h : j = k <;> simp [h, contains]

/-- Erasing takes one key away. -/
theorem contains_erase {m : SortedMap κ ν} {k j : κ} :
    (m.erase k).contains j = true ↔ j ≠ k ∧ m.contains j = true := by
  rw [contains, get?_erase]
  by_cases h : j = k <;> simp [h, contains]

theorem mem_keys_iff_contains {m : SortedMap κ ν} {k : κ} :
    k ∈ m.keys ↔ m.contains k = true := mem_keys_iff.trans contains_iff.symm

theorem mem_keys_insert [Std.TransOrd κ] {m : SortedMap κ ν} {k j : κ} {v : ν} :
    j ∈ (m.insert k v).keys ↔ j = k ∨ j ∈ m.keys := by
  rw [mem_keys_iff_contains, mem_keys_iff_contains, contains_insert]

theorem mem_keys_erase {m : SortedMap κ ν} {k j : κ} :
    j ∈ (m.erase k).keys ↔ j ≠ k ∧ j ∈ m.keys := by
  rw [mem_keys_iff_contains, mem_keys_iff_contains, contains_erase]

/-- What is found after an insertion was inserted, or was there under another key. -/
theorem get?_insert_eq_some_iff [Std.TransOrd κ] {m : SortedMap κ ν} {k j : κ} {v w : ν} :
    (m.insert k v).get? j = some w ↔ (j = k ∧ w = v) ∨ (j ≠ k ∧ m.get? j = some w) := by
  rw [get?_insert]
  by_cases h : j = k <;> simp [h, eq_comm]

/-- Look-ups find what was there, except under the erased key. -/
theorem get?_erase_eq_some_iff {m : SortedMap κ ν} {k j : κ} {w : ν} :
    (m.erase k).get? j = some w ↔ j ≠ k ∧ m.get? j = some w := by
  rw [get?_erase]
  by_cases h : j = k <;> simp [h]

/-- What is found after insertions under different keys was inserted, or was there before. -/
theorem get?_foldl_insert [Std.TransOrd κ] {α : Type} {key : α → κ} {value : α → ν} {l : List α}
    (distinct : (l.map key).Nodup) (m : SortedMap κ ν) (k : κ) :
    (l.foldl (fun m a => m.insert (key a) (value a)) m).get? k =
      ((l.find? (key · = k)).map value).or (m.get? k) := by
  induction l generalizing m with
  | nil => rfl
  | cons a rest ih =>
    obtain ⟨ha, hrest⟩ := List.nodup_cons.mp distinct
    rw [List.foldl_cons, ih hrest, get?_insert, List.find?_cons]
    by_cases hkey : key a = k
    · -- nothing is inserted later under the key of this one
      have hnone : rest.find? (key · = k) = none := by
        refine List.find?_eq_none.mpr fun b hb heq => ha ?_
        exact List.mem_map.mpr ⟨b, hb, (of_decide_eq_true heq).trans hkey.symm⟩
      simp [hkey, hnone]
    · simp [hkey, Ne.symm hkey]

/-- A value is the inserted one or was there before. -/
theorem mem_values_insert [Std.TransOrd κ] {m : SortedMap κ ν} {k : κ} {v w : ν}
    (h : w ∈ (m.insert k v).values) : w = v ∨ w ∈ m.values := by
  obtain ⟨j, hget⟩ := mem_values_iff.mp h
  rcases get?_insert_eq_some_iff.mp hget with ⟨-, rfl⟩ | ⟨-, hget⟩
  · exact Or.inl rfl
  · exact Or.inr (mem_values_iff.mpr ⟨j, hget⟩)

/-- What a map of bindings finds is one of them. -/
theorem mem_of_get?_ofList [Std.TransOrd κ] {bindings : List (κ × ν)} {k : κ} {v : ν}
    (h : (ofList bindings).get? k = some v) : (k, v) ∈ bindings := by
  -- the map grows along the bindings, so the induction is over all maps
  have hall : ∀ {m : SortedMap κ ν},
      (bindings.foldl (fun m b => m.insert b.1 b.2) m).get? k = some v →
        (k, v) ∈ bindings ∨ m.get? k = some v := by
    clear h
    induction bindings with
    | nil => exact Or.inr
    | cons b rest ih =>
      intro m h
      rcases ih h with hrest | hget
      · exact Or.inl (List.mem_cons_of_mem _ hrest)
      · rcases get?_insert_eq_some_iff.mp hget with ⟨rfl, rfl⟩ | ⟨-, hget⟩
        · exact Or.inl (List.mem_cons_self ..)
        · exact Or.inr hget
  rcases hall h with hmem | hget
  · exact hmem
  · cases hget

/-- The keys of a map of bindings are those that the bindings have. -/
theorem mem_keys_ofList [Std.TransOrd κ] {bindings : List (κ × ν)} {k : κ} :
    k ∈ (ofList bindings).keys ↔ k ∈ bindings.map (·.1) := by
  -- the map grows along the bindings, so the induction is over all maps
  have hall : ∀ m : SortedMap κ ν,
      k ∈ (bindings.foldl (fun m b => m.insert b.1 b.2) m).keys ↔
        k ∈ bindings.map (·.1) ∨ k ∈ m.keys := by
    induction bindings with
    | nil => simp
    | cons b rest ih =>
      intro m
      rw [List.foldl_cons, ih, mem_keys_insert, List.map_cons, List.mem_cons, or_assoc,
        or_left_comm]
  have hempty : k ∉ (empty : SortedMap κ ν).keys := List.not_mem_nil
  rw [ofList, hall, or_iff_left hempty]

omit [DecidableEq κ] in
/-- No key is bound twice. -/
theorem nodup_keys (m : SortedMap κ ν) : m.keys.Nodup := by
  refine List.pairwise_map.mpr (m.ascending.imp fun {a b} hlt heq => ?_)
  rw [heq] at hlt
  simp at hlt

/-- What is found in two merged maps is in the later one, or in the other where the later has none. -/
theorem get?_merge [Std.TransOrd κ] (m later : SortedMap κ ν) (k : κ) :
    (m.merge later).get? k = (later.get? k).or (m.get? k) := by
  have hfind : (later.entries.find? (·.1 = k)).map (·.2) = later.get? k := by
    rw [← List.head?_filter, show later.entries.filter (·.1 = k) = _ from filter_key later k]
    cases later.get? k <;> rfl
  rw [merge, get?_foldl_insert (nodup_keys later), hfind]

/-- Values that know their own keys: the list of what they know is the list of the keys. -/
theorem map_values_eq_keys {m : SortedMap κ ν} {f : ν → κ}
    (h : ∀ k v, m.get? k = some v → f v = k) : m.values.map f = m.keys := by
  rw [values, keys, List.map_map]
  exact List.map_congr_left fun e he => h e.1 e.2 (get?_eq_some_iff.mpr he)

/-- Values that know their own keys are listed without repetition. -/
theorem nodup_map_values {m : SortedMap κ ν} {f : ν → κ}
    (h : ∀ k v, m.get? k = some v → f v = k) : (m.values.map f).Nodup := by
  rw [map_values_eq_keys h]
  exact m.nodup_keys

end Listings

/-! ## Translated values -/

/-- The map with the value of each key translated. -/
def mapValues (f : κ → ν → μ) (m : SortedMap κ ν) : SortedMap κ μ where
  entries := m.entries.map fun e => (e.1, f e.1 e.2)
  ascending := List.pairwise_map.mpr m.ascending

section Translated

variable (f : κ → ν → μ) (m : SortedMap κ ν)

@[simp] theorem entries_mapValues :
    (m.mapValues f).entries = m.entries.map fun e => (e.1, f e.1 e.2) := rfl

@[simp] theorem keys_mapValues : (m.mapValues f).keys = m.keys := by
  simp [keys, List.map_map, Function.comp_def]

@[simp] theorem lastKey?_mapValues : (m.mapValues f).lastKey? = m.lastKey? := by
  simp [lastKey?]

variable [Std.LawfulEqOrd κ] [DecidableEq κ]

/-- A look-up in mapped entries finds the mapped value. -/
theorem lookup_map (k : κ) (entries : List (κ × ν)) :
    lookup k (entries.map fun e => (e.1, f e.1 e.2)) = (lookup k entries).map (f k) := by
  induction entries with
  | nil => rfl
  | cons head rest ih =>
    obtain ⟨j, v⟩ := head
    by_cases h : k = j
    · subst h
      simp [lookup]
    · simp [lookup, h, ih]

@[simp] theorem get?_mapValues (k : κ) : (m.mapValues f).get? k = (m.get? k).map (f k) :=
  lookup_map f k m.entries

@[simp] theorem contains_mapValues (k : κ) : (m.mapValues f).contains k = m.contains k := by
  simp [contains]

variable [Std.TransOrd κ]

/-- Binding a key goes along with binding its translation; only the translations of the other keys
have to stay what they were. -/
theorem mapValues_insert {f g : κ → ν → μ} {m : SortedMap κ ν} {k : κ} {v : ν}
    (h : ∀ j, j ≠ k → f j = g j) :
    (m.insert k v).mapValues f = (m.mapValues g).insert k (f k v) := by
  refine ext_get? ?_
  intro j
  rw [get?_mapValues, get?_insert, get?_insert, get?_mapValues]
  by_cases hj : j = k
  · simp [hj]
  · simp [hj, h j hj]

/-- Binding a bound key anew leaves everything in its place. -/
theorem insert_eq_mapValues {m : SortedMap κ ν} {k : κ} {v w : ν} (h : m.get? k = some w) :
    m.insert k v = m.mapValues fun j old => if j = k then v else old := by
  refine ext_get? ?_
  intro j
  rw [get?_mapValues, get?_insert]
  by_cases hj : j = k
  · simp [hj, h]
  · simp [hj]

theorem mapValues_erase (k : κ) : (m.erase k).mapValues f = (m.mapValues f).erase k := by
  refine ext_get? ?_
  intro j
  rw [get?_mapValues, get?_erase, get?_erase, get?_mapValues]
  by_cases hj : j = k <;> simp [hj]

end Translated

end SortedMap

/-! ## New ids -/

namespace Store

variable {α β : Type}

/-- The id after the highest one is above all ids in use. -/
theorem lt_nextId {m : SortedMap Int α} {k : Int} (h : k ∈ m.keys) : k < nextId m := by
  rw [nextId, SortedMap.lastKey?]
  -- the keys ascend, so the last one is the highest
  have hsorted : m.keys.Pairwise (· < ·) :=
    List.pairwise_map.mpr (m.ascending.imp Int.compare_eq_lt.mp)
  cases hlast : m.keys.getLast? with
  | none => simp [List.getLast?_eq_none_iff.mp hlast] at h
  | some last =>
    obtain ⟨init, hinit⟩ := List.getLast?_eq_some_iff.mp hlast
    rw [hinit] at h hsorted
    rcases List.mem_append.mp h with h | h
    · have hlt := (List.pairwise_append.mp hsorted).2.2 k h last (List.mem_singleton_self last)
      show k < last + 1
      omega
    · obtain rfl := List.mem_singleton.mp h
      show k < k + 1
      omega

/-- The next id is above all that are used. -/
theorem lt_nextId_of_get? {m : SortedMap Int α} {k : Int} {a : α} (h : m.get? k = some a) :
    k < nextId m :=
  lt_nextId (SortedMap.mem_keys_iff.mpr ⟨a, h⟩)

/-- So nothing is stored under it. -/
theorem get?_nextId (m : SortedMap Int α) : m.get? (nextId m) = none := by
  cases h : m.get? (nextId m) with
  | none => rfl
  | some a => exact absurd (lt_nextId_of_get? h) (Int.lt_irrefl _)

/-- The next id is 1, or follows an id in use. -/
theorem nextId_eq (m : SortedMap Int α) : nextId m = 1 ∨ ∃ k ∈ m.keys, nextId m = k + 1 := by
  rw [nextId]
  cases hlast : m.lastKey? with
  | none => exact Or.inl rfl
  | some last => exact Or.inr ⟨last, List.mem_of_getLast? hlast, rfl⟩

@[simp] theorem nextId_mapValues (f : Int → α → β) (m : SortedMap Int α) :
    nextId (m.mapValues f) = nextId m := by
  simp [nextId]

end Store

end Flashcard
