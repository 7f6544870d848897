import Flashcard.Document.NoteType
import Flashcard.Proofs.Json.RoundTrip
import Mathlib.Data.List.Nodup

/-!
# Records and what they hold

A record is written with a member for each of its parts but those that are missing. With a name for each
part it is read back part by part.

- `Json.Slot`, `Json.ofSlots`: the parts of a record, and its members.
- `Json.record?_ofSlots`, `Json.lookup_ofSlots`: what is found in them.
- `Json.required_ofSlots`, `Json.withDefault_ofSlots`, `Json.optional_ofSlots`: what is read of them.
-/

namespace Flashcard.Json

/-- A part of a record: its name, and its value if there is one. -/
abbrev Slot := String × Option Json

/-- The members of a record. -/
def ofSlots (slots : List Slot) : Record := slots.filterMap fun s => s.2.map (s.1, ·)

variable {α : Type} {name : String} {part : Option α} {j : Json} {slots : List Slot}
  {toJson : α → Json} {decode : Json → Option α} {r : Record}

theorem ofSlots_nil : ofSlots [] = [] := rfl

theorem ofSlots_some : ofSlots ((name, some j) :: slots) = (name, j) :: ofSlots slots := rfl

/-- A slot that may be empty is a member that may be missing. -/
theorem ofSlots_map :
    ofSlots ((name, part.map toJson) :: slots) = member? name toJson part ++ ofSlots slots := by
  cases part <;> rfl

/-- The members have the names of slots, in their order. -/
theorem sublist_names_ofSlots (slots : List Slot) :
    ((ofSlots slots).map (·.1)).Sublist (slots.map (·.1)) := by
  induction slots with
  | nil => exact .refl _
  | cons s slots ih =>
    obtain ⟨name, _ | j⟩ := s
    · exact ih.cons name
    · exact ih.cons_cons name

/-- A record is taken as one. -/
theorem record?_ofSlots {names : List String} (hnames : slots.map (·.1) = names)
    (distinct : names.Nodup) (shortest : Nat) :
    record? names shortest (.obj (ofSlots slots)) = some (ofSlots slots) := by
  have hsublist := sublist_names_ofSlots slots
  rw [hnames] at hsublist
  have hknown : (ofSlots slots).filter (fun m => names.contains m.1) = ofSlots slots :=
    List.filter_eq_self.mpr fun m hm =>
      List.contains_iff_mem.mpr (hsublist.subset (List.mem_map_of_mem hm))
  show (if (((ofSlots slots).filter fun m => names.contains m.1).map (·.1)).Nodup then _ else _) = _
  rw [hknown, if_pos (hsublist.nodup distinct)]

/-- **Each part is found under its name**, and nothing where it is missing. -/
theorem lookup_ofSlots (distinct : (slots.map (·.1)).Nodup) {found : Option Json}
    (h : (name, found) ∈ slots) : (ofSlots slots).lookup name = found := by
  induction slots with
  | nil => cases h
  | cons s slots ih =>
    obtain ⟨other, part⟩ := s
    obtain ⟨hnew, hrest⟩ := List.nodup_cons.mp distinct
    have hcons : (ofSlots ((other, part) :: slots)).lookup name =
        if name = other then part.or ((ofSlots slots).lookup name) else (ofSlots slots).lookup name := by
      cases part with
      | none => exact (ite_self _).symm
      | some j =>
        show ((other, j) :: ofSlots slots).lookup name = _
        by_cases heq : name = other
        · rw [if_pos heq, List.lookup_cons, beq_iff_eq.mpr heq, Option.some_or]
        · rw [if_neg heq, List.lookup_cons, beq_false_of_ne heq]
    rw [hcons]
    rcases List.mem_cons.mp h with heq | hmem
    · -- the name is not used again, so there is nothing but the part
      cases heq
      have hnone : (ofSlots slots).lookup name = none := by
        refine List.lookup_eq_none_iff.mpr fun m hm => bne_iff_ne.mpr fun heq => hnew ?_
        rw [heq]
        exact (sublist_names_ofSlots slots).subset (List.mem_map_of_mem hm)
      rw [if_pos rfl, hnone, Option.or_none]
    · have hne : name ≠ other := fun heq => hnew (List.mem_map.mpr ⟨_, hmem, heq⟩)
      rw [if_neg hne]
      exact ih hrest hmem

/-- An object is plain if its values are. -/
theorem plain_ofSlots {d : Nat} (h : ∀ s ∈ slots, ∀ j ∈ s.2, Plain d j) :
    Plain (d + 1) (.obj (ofSlots slots)) := by
  refine .obj fun m hm => ?_
  obtain ⟨s, hs, hpart⟩ := List.mem_filterMap.mp hm
  obtain ⟨j, hj, rfl⟩ := Option.map_eq_some_iff.mp hpart
  exact h s hs j hj

/-- A number below a limit is read back. -/
theorem natBelow?_ofNat {limit n : Nat} (h : n < limit) : natBelow? limit (.ofNat n) = some n := by
  show (if 0 ≤ (n : Int) ∧ (n : Int) < limit then some n else none) = some n
  rw [if_pos (by omega)]

/-- Also where there may be none. -/
theorem nullable?_ofNat {limit n : Nat} (h : n < limit) :
    nullable? (natBelow? limit) (.ofNat n) = some (some n) := by
  show (natBelow? limit (.ofNat n)).map some = _
  rw [natBelow?_ofNat h, Option.map_some]

/-- And if there is none, nothing is read. -/
theorem nullable?_ofOption_ofNat {limit : Nat} {part : Option Nat} (h : ∀ n ∈ part, n < limit) :
    nullable? (natBelow? limit) (.ofOption .ofNat part) = some part := by
  cases part with
  | none => rfl
  | some n => exact nullable?_ofNat (h n rfl)

/-- Strings are read back one by one. -/
theorem list?_ofStrings (strings : List String) : list? str? (.ofStrings strings) = some strings :=
  mapM_map_eq_some (f := str?) (g := .str) (fun _ => rfl) strings

/-- A list of texts is plain. -/
theorem plain_ofStrings (d : Nat) (strings : List String) : Plain (d + 1) (.ofStrings strings) := by
  refine .arr fun j hj => ?_
  obtain ⟨s, -, rfl⟩ := List.mem_map.mp hj
  exact .str d s

/-- A number below a limit that readers know is plain. -/
theorem plain_ofNat (d : Nat) {limit n : Nat} (h : n < limit) (hlimit : (limit : Int) ≤ intLimit) :
    Plain d (.ofNat n) := by
  refine .int d ?_ ?_
  · show minInt ≤ (n : Int)
    rw [minInt]
    omega
  · show (n : Int) < intLimit
    omega

theorem plain_ofOption_ofNat (d : Nat) {limit : Nat} {part : Option Nat} (h : ∀ n ∈ part, n < limit)
    (hlimit : (limit : Int) ≤ intLimit) : Plain d (.ofOption .ofNat part) := by
  cases part with
  | none => exact .null d
  | some n => exact plain_ofNat d (h n rfl) hlimit

/-! ## Reading parts -/

section Parts

variable (distinct : (slots.map (·.1)).Nodup)

include distinct

/-- A slot that is filled is read. -/
theorem required_ofSlots {a : α} (h : (name, some j) ∈ slots) (hdecode : decode j = some a) :
    (ofSlots slots).required name decode = some a := by
  rw [Record.required, lookup_ofSlots distinct h]
  exact hdecode

/-- A slot that is filled is read, and not its default. -/
theorem withDefault_ofSlots {a default : α} (h : (name, some j) ∈ slots)
    (hdecode : decode j = some a) :
    (ofSlots slots).withDefault name default decode = some a := by
  rw [Record.withDefault, lookup_ofSlots distinct h]
  exact hdecode

/-- A part that may be missing is read back, missing or not. -/
theorem optional_ofSlots (toJson : α → Json) (h : (name, part.map toJson) ∈ slots)
    (hdecode : ∀ a ∈ part, nullable? decode (toJson a) = some (some a)) :
    (ofSlots slots).optional name decode = some part := by
  rw [Record.optional, lookup_ofSlots distinct h]
  cases part with
  | none => rfl
  | some a => exact hdecode a rfl

end Parts

end Flashcard.Json
