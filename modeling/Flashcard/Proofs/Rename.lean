import Flashcard.Proofs.Drafts
import Flashcard.Proofs.WellFormed

/-!
# What a rename does to drafts

A renamed field takes its value along, and the gates on it. The drafts of a note then have the
identities that they had, with two exceptions that the names themselves bring about: the field whose
numbers cloze templates take is always `Text`, and a note may hold a value under a name that its type
does not have, which a field of that name then finds.

- `FieldMap.rename`: the values of a note after a rename.
- `NoteType.Undisturbed`: neither exception applies to the values.

## Main statements

- `NoteType.identities_rename_iff`: the identities of the drafts are the same exactly where the values
  are undisturbed.
- `NoteType.undisturbed_of_ne`: so they are where neither name is `Text` and no value is held under the
  new name.
-/

namespace Flashcard

/-! ## Values -/

/-- Field values after a field was renamed: what is held under the old name moves to the new one. -/
def FieldMap.rename (fields : FieldMap) (oldName newName : String) : FieldMap :=
  match fields.get? oldName with
  | none => fields
  | some value => (fields.erase oldName).insert newName value

theorem Collection.fieldChange?_renameField (oldName newName : String) :
    fieldChange? (.renameField oldName newName) =
      some fun fields => fields.rename oldName newName := rfl

namespace FieldMap

variable {fields : FieldMap} {oldName newName name : String}

theorem value_eq_empty (h : fields.get? name = none) : fields.value name = "" := by
  rw [FieldMap.value, SortedMap.getD, h]
  rfl

/-- Nothing changes where the name stays. -/
theorem rename_self (fields : FieldMap) (name : String) : fields.rename name name = fields := by
  rw [rename]
  cases h : fields.get? name with
  | none => rfl
  | some held =>
    refine SortedMap.ext_get? fun other => ?_
    by_cases hother : other = name
    · simp [hother, h]
    · simp [SortedMap.get?_insert, SortedMap.get?_erase, hother]

/-- What is held under the new name was held under the old one, if anything was. -/
theorem value_rename_new :
    (fields.rename oldName newName).value newName =
      if fields.get? oldName = none then fields.value newName else fields.value oldName := by
  rw [rename]
  cases h : fields.get? oldName with
  | none => rfl
  | some held => simp [FieldMap.value, SortedMap.getD, h]

/-- What is held under a third name stays. -/
theorem value_rename_of_ne (hold : name ≠ oldName) (hnew : name ≠ newName) :
    (fields.rename oldName newName).value name = fields.value name := by
  rw [rename]
  cases fields.get? oldName with
  | none => rfl
  | some held =>
    simp [FieldMap.value, SortedMap.getD, SortedMap.get?_insert, SortedMap.get?_erase, hold, hnew]

end FieldMap

/-! ## One template -/

namespace CardTemplate

/-- Whether a template gives a card of this number. -/
def Gives (t : CardTemplate) (fields : FieldMap) (ordinal : UInt32) : Prop :=
  if t.isCloze then ordinal ∈ clozeOrdinals fields else ordinal = 0 ∧ t.isOpen fields = true

/-- What makes a template give the same cards after a rename: a cloze template finds the same numbers
in `Text`, and a plain one that is gated on the field finds nothing under the new name that was not
held under the old one. -/
def Undisturbed (t : CardTemplate) (oldName newName : String) (fields : FieldMap) : Prop :=
  if t.isCloze then
    ∀ ordinal, ordinal ∈ clozeOrdinals (fields.rename oldName newName) ↔ ordinal ∈ clozeOrdinals fields
  else
    t.gate = some oldName → fields.get? oldName = none → Text.allBlank (fields.value newName) = true

variable {t : CardTemplate} {fields : FieldMap} {oldName newName : String}

theorem mem_identities_drafts {i : CardIdentity} :
    i ∈ (t.drafts fields).map CardDraft.identity ↔
      i.templateName = t.name ∧ t.Gives fields i.ordinal := by
  obtain ⟨templateName, ordinal⟩ := i
  unfold drafts Gives
  split
  · simp [clozeDraft, CardDraft.identity, eq_comm, and_comm]
  · split <;> simp_all [plainDraft, CardDraft.identity]

theorem gateField?_of_ne {name : String} (h : t.gate ≠ some name) (other : String) :
    (t.renameField name other).gateField? = t.gateField? := by
  rw [gateField?, gateField?, renameField, if_neg h]

theorem gateField?_of_gate {name : String} (h : t.gate = some name) (hname : IsFieldName name) :
    t.gateField? = some name := by
  rw [gateField?, h]
  simp [Text.nonBlank?, hname.1]

/-- A field that a template is gated on is a field of its note type. -/
theorem mem_fields_of_gateField? {names : List String} {gate : String} (h : t.gateField? = some gate)
    (gated : IsGate names t.gate) : t.gate = some gate ∧ gate ∈ names := by
  obtain ⟨name, hname, hblank⟩ := Option.bind_eq_some_iff.mp h
  rw [Text.nonBlank?] at hblank
  split at hblank
  · cases hblank
  · next hfilled =>
    obtain rfl := Option.some.inj hblank
    exact ⟨hname, (gated name hname).resolve_left hfilled⟩

/-- Nothing is disturbed where the name stays. -/
theorem undisturbed_self (t : CardTemplate) (name : String) (fields : FieldMap) :
    t.Undisturbed name name fields := by
  rw [Undisturbed, FieldMap.rename_self]
  split
  · exact fun _ => Iff.rfl
  · intro _ hnone
    rw [FieldMap.value_eq_empty hnone]
    rfl

/-- A gate finds the renamed field filled in exactly where it found the field so. -/
theorem isOpen_rename {names : List String} (gated : IsGate names t.gate) (old : IsFieldName oldName)
    (new : IsFieldName newName) (hnew : newName ∉ names) :
    (t.renameField oldName newName).isOpen (fields.rename oldName newName) = t.isOpen fields ↔
      (t.gate = some oldName → fields.get? oldName = none →
        Text.allBlank (fields.value newName) = true) := by
  by_cases hgate : t.gate = some oldName
  · have hrenamed : (t.renameField oldName newName).gate = some newName := if_pos hgate
    simp only [isOpen, gateField?_of_gate hgate old, gateField?_of_gate hrenamed new,
      FieldMap.value_rename_new, hgate, forall_const]
    cases hheld : fields.get? oldName with
    | none => simp [FieldMap.value_eq_empty hheld, Text.allBlank]
    | some held => simp
  · simp only [isOpen, gateField?_of_ne hgate, hgate, false_implies, iff_true]
    split
    · rfl
    · next gate hfield =>
      -- the gate is another field, and not the new name, which is no field yet
      obtain ⟨hsome, hmem⟩ := mem_fields_of_gateField? hfield gated
      rw [FieldMap.value_rename_of_ne]
      · rintro rfl
        exact hgate hsome
      · rintro rfl
        exact hnew hmem

theorem gives_rename_iff {names : List String} (gated : IsGate names t.gate)
    (old : IsFieldName oldName) (new : IsFieldName newName) (hnew : newName ∉ names) :
    (∀ ordinal, (t.renameField oldName newName).Gives (fields.rename oldName newName) ordinal ↔
      t.Gives fields ordinal) ↔ t.Undisturbed oldName newName fields := by
  have hcloze : (t.renameField oldName newName).isCloze = t.isCloze := rfl
  unfold Gives Undisturbed
  rw [hcloze]
  cases t.isCloze with
  | true => rfl
  | false =>
    simp only [Bool.false_eq_true, if_false]
    rw [← isOpen_rename gated old new hnew, Bool.eq_iff_iff]
    -- a plain template gives one card, of number 0, or none
    constructor
    · intro h
      simpa using h 0
    · intro h ordinal
      simp [h]

end CardTemplate

/-! ## The whole note type -/

namespace NoteType

/-- A rename does not disturb these values for any of the templates. -/
def Undisturbed (nt : NoteType) (oldName newName : String) (fields : FieldMap) : Prop :=
  ∀ t ∈ nt.templates, t.Undisturbed oldName newName fields

variable {nt edited : NoteType} {fields : FieldMap} {oldName newName : String}

theorem mem_identities_drafts {i : CardIdentity} :
    i ∈ (nt.drafts fields).map CardDraft.identity ↔
      ∃ t ∈ nt.templates, i.templateName = t.name ∧ t.Gives fields i.ordinal := by
  simp only [drafts, List.map_flatMap, List.mem_flatMap, CardTemplate.mem_identities_drafts]

/-- Where template names differ, a template is known by the cards of its name. -/
theorem mem_identities_drafts_of_mem (distinct : (nt.templates.map (·.name)).Nodup)
    {t : CardTemplate} (ht : t ∈ nt.templates) (ordinal : UInt32) :
    ⟨t.name, ordinal⟩ ∈ (nt.drafts fields).map CardDraft.identity ↔ t.Gives fields ordinal := by
  rw [mem_identities_drafts]
  constructor
  · rintro ⟨t', ht', hname, hgives⟩
    exact List.inj_on_of_nodup_map distinct ht ht' hname ▸ hgives
  · intro hgives
    exact ⟨t, ht, rfl, hgives⟩

theorem isFieldName_of_fieldIndex (h : nt.WellFormed) {index : Nat}
    (hindex : nt.fieldIndex oldName = .ok index) : IsFieldName oldName := by
  obtain ⟨others, hperm, -⟩ := perm_of_fieldIndex hindex
  exact h.named oldName (hperm.mem_iff.mpr (List.mem_cons_self ..))

/-- **A rename keeps the identities of the drafts of a note** exactly where it does not disturb the
values of the note. -/
theorem identities_rename_iff (h : nt.WellFormed)
    (hedited : nt.renameField oldName newName = .ok edited) (fields : FieldMap) :
    (∀ i, i ∈ (edited.drafts (fields.rename oldName newName)).map CardDraft.identity ↔
      i ∈ (nt.drafts fields).map CardDraft.identity) ↔ nt.Undisturbed oldName newName fields := by
  obtain ⟨index, hindex, ⟨rfl, rfl⟩ | ⟨-, hcheck, hrenamed⟩⟩ := renameField_eq_ok.mp hedited
  · rw [FieldMap.rename_self]
    exact iff_of_true (fun _ => Iff.rfl) fun t _ => t.undisturbed_self oldName fields
  obtain ⟨new, hnew⟩ := checkNewField_eq_ok.mp hcheck
  have old := isFieldName_of_fieldIndex h hindex
  have htemplates : edited.templates = nt.templates.map (·.renameField oldName newName) :=
    hrenamed ▸ rfl
  have distinct' : (edited.templates.map (·.name)).Nodup :=
    have hok : nt.edit (.renameField oldName newName) = .ok edited := hedited
    nodup_templates_edit hok h.nodup_templates
  have hgives : ∀ t ∈ nt.templates, t.Undisturbed oldName newName fields ↔ ∀ ordinal,
      (t.renameField oldName newName).Gives (fields.rename oldName newName) ordinal ↔
        t.Gives fields ordinal :=
    fun t ht => (CardTemplate.gives_rename_iff (h.gated t ht) old new hnew).symm
  -- a template and the renamed one have one name, so they are compared one by one
  refine Iff.trans ?_ (forall₂_congr hgives).symm
  constructor
  · intro hsame t ht ordinal
    rw [← mem_identities_drafts_of_mem h.nodup_templates ht, ← hsame]
    have ht' : t.renameField oldName newName ∈ edited.templates :=
      htemplates ▸ List.mem_map_of_mem ht
    exact (mem_identities_drafts_of_mem distinct' ht' ordinal).symm
  · intro hsame i
    rw [mem_identities_drafts, mem_identities_drafts, htemplates]
    constructor
    · rintro ⟨t', ht', hname, hgives'⟩
      obtain ⟨t, ht, rfl⟩ := List.mem_map.mp ht'
      exact ⟨t, ht, hname, (hsame t ht _).mp hgives'⟩
    · rintro ⟨t, ht, hname, hgives'⟩
      exact ⟨_, List.mem_map_of_mem ht, hname, (hsame t ht _).mpr hgives'⟩

/-- Values are undisturbed where neither name is that of the field that cloze templates take their
numbers from, and nothing is held under the new name. -/
theorem undisturbed_of_ne (nt : NoteType) (hold : clozeSource ≠ oldName)
    (hnew : clozeSource ≠ newName) (hfree : fields.get? newName = none) :
    nt.Undisturbed oldName newName fields := by
  intro t _
  rw [CardTemplate.Undisturbed]
  split
  · intro ordinal
    rw [clozeOrdinals, FieldMap.value_rename_of_ne hold hnew, clozeOrdinals]
  · intro _ _
    rw [FieldMap.value_eq_empty hfree]
    rfl

end NoteType

end Flashcard
