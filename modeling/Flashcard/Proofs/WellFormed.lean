import Flashcard.Proofs.NoteTypeEdit
import Flashcard.Proofs.SortedMap
import Mathlib.Data.List.Perm.Basic

/-!
# Well-formed note types

A note type names its fields in several places: templates are gated on them, options are kept for
them, notes are sorted by one of them. Every edit moves these places together.

- `NoteType.WellFormed`: the names of a note type fit together.

## Main statements

- `NoteType.WellFormed.edit`: an edit that is granted keeps a note type well formed.
- `NoteType.wellFormed_afterEdits`: so does any list of edits, and those refused change nothing.
-/

namespace Flashcard

/-- A name that a field can have. -/
def IsFieldName (name : String) : Prop := Text.allBlank name = false ∧ name ∉ reservedFieldNames

/-- A gate that a template can have next to these fields. A blank one is no gate. -/
def IsGate (fields : List String) (gate : Option String) : Prop :=
  ∀ name ∈ gate, Text.allBlank name = true ∨ name ∈ fields

/-- No gate is a gate. -/
theorem isGate_none {fields : List String} : IsGate fields none := nofun

/-- A gate stays one while its field stays. -/
theorem IsGate.mono {fields fields' : List String} {gate : Option String} (h : IsGate fields gate)
    (hsub : ∀ f ∈ fields, gate = some f → f ∈ fields') : IsGate fields' gate := by
  intro name hname
  exact (h name hname).imp_right fun hmem => hsub name hmem hname

/-- A gate after an update is the old one or the new one, or none if the new one is blank. -/
theorem IsGate.updatePart {fields : List String} {old new : Option String}
    (hold : IsGate fields old) (hnew : IsGate fields new) :
    IsGate fields (CardTemplate.updatePart old new) := by
  cases new with
  | none => exact hold
  | some gate =>
    show IsGate fields (Text.nonBlank? gate)
    unfold Text.nonBlank?
    split_ifs
    · exact isGate_none
    · exact hnew

instance (name : String) : Decidable (IsFieldName name) := inferInstanceAs (Decidable (_ ∧ _))

instance (fields : List String) (gate : Option String) : Decidable (IsGate fields gate) :=
  inferInstanceAs (Decidable (∀ name ∈ gate, _ ∨ _))

namespace NoteType

/-- The fields, templates, sort position and field options of a note type fit together. -/
structure WellFormed (nt : NoteType) : Prop where
  fields_ne_nil : nt.fields ≠ []
  nodup_fields : nt.fields.Nodup
  /-- No field is blank or reserved. -/
  named : ∀ name ∈ nt.fields, IsFieldName name
  templates_ne_nil : nt.templates ≠ []
  nodup_templates : (nt.templates.map (·.name)).Nodup
  /-- Notes are sorted by one of the fields. -/
  sorted : nt.sortIndex < nt.fields.length
  /-- Templates are gated on fields. -/
  gated : ∀ t ∈ nt.templates, IsGate nt.fields t.gate
  /-- Options are kept for fields. -/
  optioned : ∀ name ∈ nt.fieldOptions.keys, name ∈ nt.fields

variable {nt edited : NoteType} {name : String}

/-! ## Checks -/

theorem hasField_iff : nt.hasField name = true ↔ name ∈ nt.fields := List.contains_iff_mem

/-- A new field is accepted if its name can be one and is not taken. -/
theorem checkNewField_eq_ok :
    nt.checkNewField name = .ok () ↔ IsFieldName name ∧ name ∉ nt.fields := by
  rw [← hasField_iff]
  unfold checkNewField IsFieldName
  split_ifs <;> simp_all

/-- A gate is accepted if it names a field or is blank. -/
theorem checkGate_eq_ok {gate : Option String} :
    nt.checkGate gate = .ok () ↔ IsGate nt.fields gate := by
  unfold checkGate IsGate
  cases gate with
  | none => simp
  | some gate =>
    cases hblank : Text.allBlank gate <;> simp [Text.nonBlank?, hblank, ← hasField_iff]

/-- A field that is found, and the other fields. -/
theorem perm_of_fieldIndex {index : Nat} (h : nt.fieldIndex name = .ok index) :
    ∃ others, nt.fields.Perm (name :: others) ∧ (nt.fields.eraseIdx index).Perm others ∧
      ∀ newName, (nt.fields.set index newName).Perm (newName :: others) := by
  unfold fieldIndex at h
  cases hfound : nt.fields.idxOf? name with
  | none => simp [hfound] at h
  | some found =>
    obtain rfl : found = index := by simpa [hfound] using h
    obtain ⟨hlt, hget, -⟩ := List.idxOf?_eq_some_iff.mp hfound
    refine ⟨nt.fields.eraseIdx found, ?_, .refl _, List.set_perm_cons_eraseIdx hlt⟩
    rw [← hget]
    exact (List.getElem_cons_eraseIdx_perm hlt).symm

/-- What a modified list holds was there before, or comes from what was. -/
theorem mem_modify {α : Type} {f : α → α} {l : List α} {index : Nat} {a : α}
    (h : a ∈ l.modify index f) : ∃ b ∈ l, a = b ∨ a = f b := by
  obtain ⟨k, hk⟩ := List.mem_iff_getElem?.mp h
  rw [List.getElem?_modify] at hk
  obtain ⟨b, hb, rfl⟩ := Option.map_eq_some_iff.mp hk
  refine ⟨b, List.mem_of_getElem? hb, ?_⟩
  split_ifs
  · exact Or.inr rfl
  · exact Or.inl rfl

/-! ## What edits keep -/

namespace WellFormed

/-- A note type is well formed after an edit if its fields, in some order, its gates and its options
fit together; template names and the sort position take care of themselves. -/
theorem of_edit {edit : NoteTypeEdit} {fields : List String} (h : nt.WellFormed)
    (hok : nt.edit edit = .ok edited) (hperm : edited.fields.Perm fields) (nodup : fields.Nodup)
    (named : ∀ name ∈ fields, IsFieldName name) (templates_ne_nil : edited.templates ≠ [])
    (gated : ∀ t ∈ edited.templates, IsGate fields t.gate)
    (optioned : ∀ name ∈ edited.fieldOptions.keys, name ∈ fields) :
    edited.WellFormed where
  fields_ne_nil := List.ne_nil_of_length_pos (Nat.zero_lt_of_lt (sortIndex_edit hok h.sorted))
  nodup_fields := hperm.nodup_iff.mpr nodup
  named := fun name hmem => named name (hperm.mem_iff.mp hmem)
  templates_ne_nil := templates_ne_nil
  nodup_templates := nodup_templates_edit hok h.nodup_templates
  sorted := sortIndex_edit hok h.sorted
  gated := fun t ht => (gated t ht).mono fun _ hf _ => hperm.mem_iff.mpr hf
  optioned := fun name hname => hperm.mem_iff.mpr (optioned name hname)

/-- An added field has a name that is accepted, and may move the sort field. -/
theorem addField {position : Option Nat} (h : nt.WellFormed)
    (hok : nt.edit (.addField name position) = .ok edited) : edited.WellFormed := by
  obtain ⟨hcheck, rfl⟩ := addField_eq_ok.mp hok
  obtain ⟨hname, hnew⟩ := checkNewField_eq_ok.mp hcheck
  refine h.of_edit hok (List.perm_insertIdx _ _ (Nat.min_le_right ..))
    (List.nodup_cons.mpr ⟨hnew, h.nodup_fields⟩) (List.forall_mem_cons.mpr ⟨hname, h.named⟩)
    h.templates_ne_nil ?_ ?_
  · exact fun t ht => (h.gated t ht).mono fun _ hf _ => List.mem_cons_of_mem _ hf
  · exact fun field hfield => List.mem_cons_of_mem _ (h.optioned field hfield)

/-- Gates follow a renamed field. -/
theorem renameField {newName : String} (h : nt.WellFormed)
    (hok : nt.edit (.renameField name newName) = .ok edited) : edited.WellFormed := by
  obtain ⟨index, hindex, ⟨-, rfl⟩ | ⟨-, hcheck, rfl⟩⟩ := renameField_eq_ok.mp hok
  · exact h
  obtain ⟨hname, hnew⟩ := checkNewField_eq_ok.mp hcheck
  obtain ⟨others, hfields, -, hset⟩ := perm_of_fieldIndex hindex
  obtain ⟨-, hnodup⟩ := List.nodup_cons.mp (hfields.nodup_iff.mp h.nodup_fields)
  have hold : ∀ f ∈ others, f ∈ nt.fields := fun f hf =>
    hfields.mem_iff.mpr (List.mem_cons_of_mem _ hf)
  have hkept : ∀ f ∈ nt.fields, f ≠ name → f ∈ newName :: others := fun f hf hne =>
    List.mem_cons_of_mem _ (List.mem_of_ne_of_mem hne (hfields.mem_iff.mp hf))
  refine h.of_edit hok (hset newName) (List.nodup_cons.mpr ⟨fun hmem => hnew (hold _ hmem), hnodup⟩)
    (List.forall_mem_cons.mpr ⟨hname, fun f hf => h.named f (hold f hf)⟩)
    (by simpa using h.templates_ne_nil) ?_ ?_
  · -- a gate on the field goes along with it
    intro t' ht'
    obtain ⟨t, ht, rfl⟩ := List.mem_map.mp ht'
    show IsGate _ (if t.gate = some name then some newName else t.gate)
    split_ifs with hgate
    · intro gate hsome
      exact Or.inr (by simp [Option.some.inj hsome])
    · refine (h.gated t ht).mono fun f hf hsome => hkept f hf ?_
      rintro rfl
      exact hgate hsome
  · -- and so do its options
    intro field hfield
    dsimp only at hfield
    split at hfield
    · next hnone =>
      refine hkept field (h.optioned field hfield) ?_
      rintro rfl
      obtain ⟨options, hsome⟩ := SortedMap.mem_keys_iff.mp hfield
      simp [hnone] at hsome
    · obtain rfl | hfield := SortedMap.mem_keys_insert.mp hfield
      · exact List.mem_cons_self ..
      · obtain ⟨hne, hfield⟩ := SortedMap.mem_keys_erase.mp hfield
        exact hkept field (h.optioned field hfield) hne

/-- Gates on a removed field are opened, and the sort field stays in range. -/
theorem removeField (h : nt.WellFormed) (hok : nt.edit (.removeField name) = .ok edited) :
    edited.WellFormed := by
  obtain ⟨-, index, hindex, rfl⟩ := removeField_eq_ok.mp hok
  obtain ⟨others, hfields, herase, -⟩ := perm_of_fieldIndex hindex
  obtain ⟨-, hnodup⟩ := List.nodup_cons.mp (hfields.nodup_iff.mp h.nodup_fields)
  have hkept : ∀ f ∈ nt.fields, f ≠ name → f ∈ others := fun f hf hne =>
    List.mem_of_ne_of_mem hne (hfields.mem_iff.mp hf)
  refine h.of_edit hok herase hnodup
    (fun f hf => h.named f (hfields.mem_iff.mpr (List.mem_cons_of_mem _ hf)))
    (by simpa using h.templates_ne_nil) ?_ ?_
  · intro t' ht'
    obtain ⟨t, ht, rfl⟩ := List.mem_map.mp ht'
    show IsGate _ (if t.gate = some name then none else t.gate)
    split_ifs with hgate
    · exact isGate_none
    · refine (h.gated t ht).mono fun f hf hsome => hkept f hf ?_
      rintro rfl
      exact hgate hsome
  · intro field hfield
    obtain ⟨hne, hfield⟩ := SortedMap.mem_keys_erase.mp hfield
    exact hkept field (h.optioned field hfield) hne

/-- Reordered fields have the same names. -/
theorem reorderFields {fields : List String} (h : nt.WellFormed)
    (hok : nt.edit (.reorderFields fields) = .ok edited) : edited.WellFormed := by
  obtain ⟨-, hsort, rfl⟩ := reorderFields_eq_ok.mp hok
  have hperm : fields.Perm nt.fields := (mergeSort_eq_mergeSort_iff_perm.mp hsort).symm
  exact h.of_edit hok hperm h.nodup_fields h.named h.templates_ne_nil h.gated h.optioned

/-- A sort field is in range. -/
theorem setSortField {index : Nat} (h : nt.WellFormed)
    (hok : nt.edit (.setSortField index) = .ok edited) : edited.WellFormed := by
  obtain ⟨-, rfl⟩ := setSortField_eq_ok.mp hok
  exact h.of_edit hok (.refl _) h.nodup_fields h.named h.templates_ne_nil h.gated h.optioned

/-- Options are kept for fields only. -/
theorem setFieldOptions {options : FieldOptions} (h : nt.WellFormed)
    (hok : nt.edit (.setFieldOptions name options) = .ok edited) : edited.WellFormed := by
  obtain ⟨hfield, rfl⟩ := setFieldOptions_eq_ok.mp hok
  refine h.of_edit hok (.refl _) h.nodup_fields h.named h.templates_ne_nil h.gated ?_
  intro field hkey
  obtain rfl | hkey := SortedMap.mem_keys_insert.mp hkey
  · exact hasField_iff.mp hfield
  · exact h.optioned field hkey

/-- A template keeps a name of its own, and its gate is checked. -/
theorem updateTemplate {update : TemplateUpdate} (h : nt.WellFormed)
    (hok : nt.edit (.updateTemplate name update) = .ok edited) : edited.WellFormed := by
  obtain ⟨hgate, index, -, rfl⟩ := updateTemplate_eq_ok.mp hok
  refine h.of_edit hok (.refl _) h.nodup_fields h.named ?_ ?_ h.optioned
  · refine List.ne_nil_of_length_pos ?_
    rw [List.length_modify]
    exact List.length_pos_of_ne_nil h.templates_ne_nil
  · intro t' ht'
    obtain ⟨t, ht, rfl | rfl⟩ := mem_modify ht'
    · exact h.gated t' ht
    · exact (h.gated t ht).updatePart (checkGate_eq_ok.mp hgate)

/-- An added template has a name of its own, and its gate is checked. -/
theorem addTemplate {template : CardTemplate} (h : nt.WellFormed)
    (hok : nt.edit (.addTemplate template) = .ok edited) : edited.WellFormed := by
  obtain ⟨-, -, hgate, rfl⟩ := addTemplate_eq_ok.mp hok
  refine h.of_edit hok (.refl _) h.nodup_fields h.named (by simp) ?_ h.optioned
  intro t ht
  obtain ht | ht := List.mem_append.mp ht
  · exact h.gated t ht
  · rw [List.mem_singleton.mp ht]
    exact checkGate_eq_ok.mp hgate

/-- One template is left. -/
theorem removeTemplate (h : nt.WellFormed) (hok : nt.edit (.removeTemplate name) = .ok edited) :
    edited.WellFormed := by
  obtain ⟨index, -, hmany, rfl⟩ := removeTemplate_eq_ok.mp hok
  refine h.of_edit hok (.refl _) h.nodup_fields h.named ?_ ?_ h.optioned
  · refine List.ne_nil_of_length_pos ?_
    rw [List.length_eraseIdx]
    split <;> omega
  · exact fun t ht => h.gated t (List.mem_of_mem_eraseIdx ht)

/-- **An edit that is granted keeps a note type well formed.** -/
theorem edit {edit : NoteTypeEdit} (h : nt.WellFormed) (hok : nt.edit edit = .ok edited) :
    edited.WellFormed := by
  cases edit with
  | addField _ _ => exact h.addField hok
  | renameField _ _ => exact h.renameField hok
  | removeField _ => exact h.removeField hok
  | reorderFields _ => exact h.reorderFields hok
  | setSortField _ => exact h.setSortField hok
  | setFieldOptions _ _ => exact h.setFieldOptions hok
  | updateTemplate _ _ => exact h.updateTemplate hok
  | addTemplate _ => exact h.addTemplate hok
  | removeTemplate _ => exact h.removeTemplate hok

end WellFormed

instance : Decidable nt.WellFormed :=
  decidable_of_iff
    (nt.fields ≠ [] ∧ nt.fields.Nodup ∧ (∀ name ∈ nt.fields, IsFieldName name) ∧
      nt.templates ≠ [] ∧ (nt.templates.map (·.name)).Nodup ∧ nt.sortIndex < nt.fields.length ∧
      (∀ t ∈ nt.templates, IsGate nt.fields t.gate) ∧
      ∀ name ∈ nt.fieldOptions.keys, name ∈ nt.fields)
    ⟨fun ⟨h₁, h₂, h₃, h₄, h₅, h₆, h₇, h₈⟩ => ⟨h₁, h₂, h₃, h₄, h₅, h₆, h₇, h₈⟩,
      fun ⟨h₁, h₂, h₃, h₄, h₅, h₆, h₇, h₈⟩ => ⟨h₁, h₂, h₃, h₄, h₅, h₆, h₇, h₈⟩⟩

/-- The stock note types are well formed. -/
theorem wellFormed_stock : ∀ nt ∈ stock, nt.WellFormed := by decide

end NoteType

/-! ## Edits one after the other -/

namespace NoteType

variable {nt : NoteType}

/-- An editor leaves the edited note type, or the old one with an error. -/
theorem apply_eq (edit : NoteTypeEdit) (nt : NoteType) :
    edit.apply nt = match nt.edit edit with
      | .ok edited => .ok () edited
      | .error e => .error e nt := by
  show (match nt.edit edit with
    | .ok edited => set edited
    | .error e => throw e : EStateM EditError NoteType Unit) nt = _
  cases nt.edit edit <;> rfl

/-- A refused edit leaves the note type as it is, and so each step keeps it well formed. -/
theorem WellFormed.afterEdits (h : nt.WellFormed) (edits : List NoteTypeEdit) :
    (nt.afterEdits edits).WellFormed := by
  induction edits generalizing nt with
  | nil => exact h
  | cons edit rest ih =>
    refine ih ?_
    dsimp only
    rw [apply_eq]
    cases hok : nt.edit edit with
    | ok edited => exact h.edit hok
    | error e => exact h

/-- **Edits keep a note type well formed**, however many have been applied: the next one, if it is
granted, gives a well-formed note type, and if it is refused, leaves the note type exactly as it
was. -/
theorem wellFormed_afterEdits (h : nt.WellFormed) (edits : List NoteTypeEdit)
    (edit : NoteTypeEdit) :
    (nt.afterEdits edits).WellFormed ∧
      match edit.apply (nt.afterEdits edits) with
      | .ok () edited => edited.WellFormed
      | .error _ kept => kept = nt.afterEdits edits := by
  have hnow := h.afterEdits edits
  refine ⟨hnow, ?_⟩
  rw [apply_eq]
  cases hok : (nt.afterEdits edits).edit edit with
  | ok edited => exact hnow.edit hok
  | error e => rfl

/-- A gate that went along with a renamed field goes with the field. -/
theorem wellFormed_afterEdits_renamedGate :
    basicOptionalReversed.WellFormed ∧
      (basicOptionalReversed.afterEdits [.renameField "Add Reverse" "Both"]).WellFormed ∧
      match (NoteTypeEdit.removeField "Both").apply
          (basicOptionalReversed.afterEdits [.renameField "Add Reverse" "Both"]) with
      | .ok () edited => edited.WellFormed
      | .error _ kept =>
        kept = basicOptionalReversed.afterEdits [.renameField "Add Reverse" "Both"] :=
  have stock : basicOptionalReversed.WellFormed := by decide
  ⟨stock, wellFormed_afterEdits stock [.renameField "Add Reverse" "Both"] (.removeField "Both")⟩

end NoteType

end Flashcard
