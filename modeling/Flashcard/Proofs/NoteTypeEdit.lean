import Flashcard.Proofs.Planning
import Mathlib.Data.List.Nodup
import Mathlib.Data.List.Sort
import Mathlib.Data.String.Basic

/-!
# What edits do to note types

When an edit is accepted, and which note type it gives. An edit never renames the note type and
never gives two templates one name, and one that is said not to affect cards leaves the templates
alone.

- `NoteType.addField_eq_ok` and its like: each kind of edit.
- `NoteType.edit_reorderFields_eq_ok`: the orders of fields that are accepted are the permutations.
- `NoteType.name_edit`, `NoteType.nodup_templates_edit`: what every edit keeps.
- `NoteType.sortIndex_edit`: a note type stays sorted by one of its fields.
- `NoteType.templates_edit`: what an edit that does not affect cards keeps.
-/

namespace Flashcard

/-- Lists are equal when sorted exactly if they are permutations of each other: in a linear order no
two different elements tie, and so nothing of the old order is left. -/
theorem mergeSort_eq_mergeSort_iff_perm {α : Type} [LinearOrder α] {l l' : List α} :
    l.mergeSort = l'.mergeSort ↔ l.Perm l' := by
  constructor
  · intro h
    exact (l.mergeSort_perm _).symm.trans (h ▸ l'.mergeSort_perm _)
  · intro h
    have hperm : l.mergeSort.Perm l'.mergeSort :=
      (l.mergeSort_perm _).trans (h.trans (l'.mergeSort_perm _).symm)
    exact hperm.eq_of_pairwise' (List.pairwise_mergeSort' (· ≤ ·) l)
      (List.pairwise_mergeSort' (· ≤ ·) l')

namespace NoteType

variable {nt edited : NoteType} {name : String}

/-! ## Kinds of edits -/

theorem addField_eq_ok {position : Option Nat} :
    nt.addField name position = .ok edited ↔ nt.checkNewField name = .ok () ∧
      edited = { nt with
        fields := nt.fields.insertIdx
          (min (position.getD nt.fields.length) nt.fields.length) name } := by
  simp only [addField, bind_eq_ok, pure_eq_ok]
  constructor
  · rintro ⟨_, hcheck, h⟩
    exact ⟨hcheck, h.symm⟩
  · rintro ⟨hcheck, h⟩
    exact ⟨(), hcheck, h.symm⟩

theorem renameField_eq_ok {newName : String} :
    nt.renameField name newName = .ok edited ↔ ∃ index, nt.fieldIndex name = .ok index ∧
      ((name = newName ∧ edited = nt) ∨
        (name ≠ newName ∧ nt.checkNewField newName = .ok () ∧
          edited = { nt with
            fields := nt.fields.set index newName
            templates := nt.templates.map (·.renameField name newName)
            fieldOptions :=
              match nt.fieldOptions.get? name with
              | none => nt.fieldOptions
              | some options => (nt.fieldOptions.erase name).insert newName options })) := by
  rw [renameField, bind_eq_ok]
  refine exists_congr fun index => and_congr_right fun _ => ?_
  by_cases hname : name = newName
  · rw [if_pos hname, pure_eq_ok]
    simp [hname, eq_comm]
  · rw [if_neg hname, bind_eq_ok]
    constructor
    · rintro ⟨_, hcheck, h⟩
      exact Or.inr ⟨hname, hcheck, (pure_eq_ok.mp h).symm⟩
    · rintro (⟨heq, -⟩ | ⟨-, hcheck, h⟩)
      · exact absurd heq hname
      · exact ⟨(), hcheck, pure_eq_ok.mpr h.symm⟩

theorem removeField_eq_ok :
    nt.removeField name = .ok edited ↔ ¬ nt.fields.length ≤ 1 ∧
      ∃ index, nt.fieldIndex name = .ok index ∧
        edited = { nt with
          fields := nt.fields.eraseIdx index
          fieldOptions := nt.fieldOptions.erase name
          templates := nt.templates.map (·.removeField name)
          sortIndex := min nt.sortIndex ((nt.fields.eraseIdx index).length - 1) } := by
  rw [removeField]
  simp only [guard_eq_ok, bind_eq_ok, pure_eq_ok]
  refine and_congr_right fun _ => exists_congr fun index => and_congr_right fun _ => eq_comm

theorem reorderFields_eq_ok {fields : List String} :
    nt.reorderFields fields = .ok edited ↔ fields.length = nt.fields.length ∧
      nt.fields.mergeSort = fields.mergeSort ∧ edited = { nt with fields } := by
  rw [reorderFields]
  -- the numbers of fields are compared before the fields are
  split
  · next h => simp [h]
  · next h =>
    split
    · next hsort => simp [hsort]
    · next hsort => simp [Decidable.not_not.mp h, Decidable.not_not.mp hsort, eq_comm]

/-- **An order of the fields is accepted exactly if it is a permutation of them**, in which a name that
is repeated counts as often as it occurs. It then is the order of the fields, and all else stays. -/
theorem edit_reorderFields_eq_ok {fields : List String} :
    nt.edit (.reorderFields fields) = .ok edited ↔
      fields.Perm nt.fields ∧ edited = { nt with fields } := by
  show nt.reorderFields fields = .ok edited ↔ _
  rw [reorderFields_eq_ok, mergeSort_eq_mergeSort_iff_perm, List.perm_comm]
  constructor
  · rintro ⟨-, hperm, h⟩
    exact ⟨hperm, h⟩
  · rintro ⟨hperm, h⟩
    exact ⟨hperm.length_eq, hperm, h⟩

/-- As many names, and the same ones, are not enough where one of them is repeated. -/
example : { basic with fields := ["Front", "Front", "Back"] }.edit
    (.reorderFields ["Back", "Front", "Back"]) = .error (.fieldOrderMismatch .names) := by cbv

theorem setSortField_eq_ok {index : Nat} :
    nt.setSortField index = .ok edited ↔ index < nt.fields.length ∧
      edited = { nt with sortIndex := index } := by
  rw [setSortField]
  split <;> simp [*, eq_comm]

theorem setFieldOptions_eq_ok {options : FieldOptions} :
    nt.setFieldOptions name options = .ok edited ↔ nt.hasField name = true ∧
      edited = { nt with fieldOptions := nt.fieldOptions.insert name options } := by
  rw [setFieldOptions]
  split <;> simp [*, eq_comm]

theorem updateTemplate_eq_ok {update : TemplateUpdate} :
    nt.updateTemplate name update = .ok edited ↔ nt.checkGate update.gate = .ok () ∧
      ∃ index, nt.templateIndex name = .ok index ∧
        edited = { nt with templates := nt.templates.modify index (·.update update) } := by
  simp only [updateTemplate, bind_eq_ok, pure_eq_ok]
  constructor
  · rintro ⟨_, hcheck, index, hindex, h⟩
    exact ⟨hcheck, index, hindex, h.symm⟩
  · rintro ⟨hcheck, index, hindex, h⟩
    exact ⟨(), hcheck, index, hindex, h.symm⟩

theorem addTemplate_eq_ok {template : CardTemplate} :
    nt.addTemplate template = .ok edited ↔ Text.allBlank template.name = false ∧
      nt.template? template.name = none ∧ nt.checkGate template.gate = .ok () ∧
        edited = { nt with templates := nt.templates ++ [template] } := by
  rw [addTemplate]
  simp only [guard_eq_ok, bind_eq_ok, pure_eq_ok, Bool.not_eq_true, Option.isSome_eq_false_iff,
    Option.isNone_iff_eq_none]
  refine and_congr_right fun _ => and_congr_right fun _ => ?_
  constructor
  · rintro ⟨_, hcheck, h⟩
    exact ⟨hcheck, h.symm⟩
  · rintro ⟨hcheck, h⟩
    exact ⟨(), hcheck, h.symm⟩

theorem removeTemplate_eq_ok :
    nt.removeTemplate name = .ok edited ↔ ∃ index, nt.templateIndex name = .ok index ∧
      ¬ nt.templates.length ≤ 1 ∧
        edited = { nt with templates := nt.templates.eraseIdx index } := by
  rw [removeTemplate, bind_eq_ok]
  refine exists_congr fun index => and_congr_right fun _ => ?_
  simp only [guard_eq_ok, pure_eq_ok]
  exact and_congr_right fun _ => eq_comm

/-! ## What edits keep -/

/-- An edit never renames the note type. -/
theorem name_edit {edit : NoteTypeEdit} (h : nt.edit edit = .ok edited) :
    edited.name = nt.name := by
  cases edit with
  | addField _ _ => exact (addField_eq_ok.mp h).2 ▸ rfl
  | renameField _ _ =>
    obtain ⟨_, -, ⟨-, rfl⟩ | ⟨-, -, rfl⟩⟩ := renameField_eq_ok.mp h <;> rfl
  | removeField _ =>
    obtain ⟨-, _, -, rfl⟩ := removeField_eq_ok.mp h
    rfl
  | reorderFields _ => exact (reorderFields_eq_ok.mp h).2.2 ▸ rfl
  | setSortField _ => exact (setSortField_eq_ok.mp h).2 ▸ rfl
  | setFieldOptions _ _ => exact (setFieldOptions_eq_ok.mp h).2 ▸ rfl
  | updateTemplate _ _ =>
    obtain ⟨-, _, -, rfl⟩ := updateTemplate_eq_ok.mp h
    rfl
  | addTemplate _ => exact (addTemplate_eq_ok.mp h).2.2.2 ▸ rfl
  | removeTemplate _ =>
    obtain ⟨_, -, -, rfl⟩ := removeTemplate_eq_ok.mp h
    rfl

/-- An edit that does not affect cards leaves the templates alone, and the fields of notes. -/
theorem templates_edit {edit : NoteTypeEdit} (h : nt.edit edit = .ok edited)
    (hcards : edit.affectsCards = false) :
    edited.templates = nt.templates ∧ Collection.fieldChange? edit = none := by
  cases edit with
  | addField _ _ => exact ⟨(addField_eq_ok.mp h).2 ▸ rfl, rfl⟩
  | reorderFields _ => exact ⟨(reorderFields_eq_ok.mp h).2.2 ▸ rfl, rfl⟩
  | setSortField _ => exact ⟨(setSortField_eq_ok.mp h).2 ▸ rfl, rfl⟩
  | setFieldOptions _ _ => exact ⟨(setFieldOptions_eq_ok.mp h).2 ▸ rfl, rfl⟩
  | renameField _ _ | removeField _ | updateTemplate _ _ | addTemplate _ | removeTemplate _ =>
    cases hcards

theorem map_name_modify (templates : List CardTemplate) (index : Nat) (update : TemplateUpdate) :
    (templates.modify index (·.update update)).map (·.name) = templates.map (·.name) := by
  refine List.ext_getElem? ?_
  intro k
  rw [List.getElem?_map, List.getElem?_map, List.getElem?_modify]
  cases templates[k]? with
  | none => rfl
  | some t =>
    by_cases hk : index = k
    · simp [hk, CardTemplate.update]
    · simp [hk]

/-- An edit never gives two templates one name. -/
theorem nodup_templates_edit {edit : NoteTypeEdit} (h : nt.edit edit = .ok edited)
    (distinct : (nt.templates.map (·.name)).Nodup) : (edited.templates.map (·.name)).Nodup := by
  cases edit with
  | addField _ _ | reorderFields _ | setSortField _ | setFieldOptions _ _ =>
    -- these leave the templates as they are
    rw [(templates_edit h rfl).1]
    exact distinct
  | renameField _ _ =>
    obtain ⟨_, -, ⟨-, rfl⟩ | ⟨-, -, rfl⟩⟩ := renameField_eq_ok.mp h
    · exact distinct
    · rw [List.map_map]
      exact distinct
  | removeField _ =>
    obtain ⟨-, _, -, rfl⟩ := removeField_eq_ok.mp h
    rw [List.map_map]
    exact distinct
  | updateTemplate _ _ =>
    obtain ⟨-, _, -, rfl⟩ := updateTemplate_eq_ok.mp h
    rw [map_name_modify]
    exact distinct
  | addTemplate template =>
    -- the new name was looked for before
    obtain ⟨-, habsent, -, rfl⟩ := addTemplate_eq_ok.mp h
    rw [List.map_append]
    refine List.nodup_append.mpr ⟨distinct, List.nodup_singleton _, ?_⟩
    intro a ha b hb heq
    obtain ⟨t, ht, rfl⟩ := List.mem_map.mp ha
    obtain rfl := List.mem_singleton.mp hb
    exact List.find?_eq_none.mp habsent t ht (beq_iff_eq.mpr heq)
  | removeTemplate _ =>
    obtain ⟨_, -, -, rfl⟩ := removeTemplate_eq_ok.mp h
    exact distinct.sublist ((List.eraseIdx_sublist _ _).map _)

/-- An edit leaves the note type sorted by one of its fields. -/
theorem sortIndex_edit {edit : NoteTypeEdit} (h : nt.edit edit = .ok edited)
    (sorted : nt.sortIndex < nt.fields.length) : edited.sortIndex < edited.fields.length := by
  cases edit with
  | addField _ _ =>
    obtain ⟨-, rfl⟩ := addField_eq_ok.mp h
    show nt.sortIndex < (nt.fields.insertIdx _ _).length
    rw [List.length_insertIdx]
    split <;> omega
  | renameField _ _ =>
    obtain ⟨_, -, ⟨-, rfl⟩ | ⟨-, -, rfl⟩⟩ := renameField_eq_ok.mp h
    · exact sorted
    · simpa using sorted
  | removeField _ =>
    obtain ⟨hlong, index, -, rfl⟩ := removeField_eq_ok.mp h
    -- the index is cut down to the last field; there were at least two
    show min nt.sortIndex ((nt.fields.eraseIdx index).length - 1) <
      (nt.fields.eraseIdx index).length
    rw [List.length_eraseIdx]
    split <;> omega
  | reorderFields _ =>
    obtain ⟨hlength, -, rfl⟩ := reorderFields_eq_ok.mp h
    exact hlength ▸ sorted
  | setSortField _ =>
    obtain ⟨hindex, rfl⟩ := setSortField_eq_ok.mp h
    exact hindex
  | setFieldOptions _ _ => exact (setFieldOptions_eq_ok.mp h).2 ▸ sorted
  | updateTemplate _ _ =>
    obtain ⟨-, _, -, rfl⟩ := updateTemplate_eq_ok.mp h
    exact sorted
  | addTemplate _ => exact (addTemplate_eq_ok.mp h).2.2.2 ▸ sorted
  | removeTemplate _ =>
    obtain ⟨_, -, -, rfl⟩ := removeTemplate_eq_ok.mp h
    exact sorted

/-- An edit that can affect cards moves the sort position down, if at all. -/
theorem sortIndex_edit_le {edit : NoteTypeEdit} (h : nt.edit edit = .ok edited)
    (affects : edit.affectsCards = true) : edited.sortIndex ≤ nt.sortIndex := by
  cases edit with
  | addField _ _ | reorderFields _ | setSortField _ | setFieldOptions _ _ => cases affects
  | renameField _ _ =>
    obtain ⟨_, -, ⟨-, rfl⟩ | ⟨-, -, rfl⟩⟩ := renameField_eq_ok.mp h <;> exact Nat.le_refl _
  | removeField _ =>
    obtain ⟨-, _, -, rfl⟩ := removeField_eq_ok.mp h
    exact Nat.min_le_left ..
  | updateTemplate _ _ =>
    obtain ⟨-, _, -, rfl⟩ := updateTemplate_eq_ok.mp h
    exact Nat.le_refl _
  | addTemplate _ => exact (addTemplate_eq_ok.mp h).2.2.2 ▸ Nat.le_refl _
  | removeTemplate _ =>
    obtain ⟨_, -, -, rfl⟩ := removeTemplate_eq_ok.mp h
    exact Nat.le_refl _

theorem sortIndex_stock : ∀ nt ∈ stock, nt.sortIndex < nt.fields.length := by decide

theorem nodup_templates_stock : ∀ nt ∈ stock, (nt.templates.map (·.name)).Nodup := by decide

end NoteType

end Flashcard
