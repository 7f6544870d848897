import Flashcard.Proofs.Document.Record

/-!
# Documents of edits

An edit is read back from its document: parts that are left out, `null` or left at their defaults come
back as they were, and no member is taken for the one that names the kind.

- `FieldOptions.slots`, `CardTemplate.slots`, `TemplateUpdate.slots`: the parts of the documents.
- `NoteTypeEdit.InRange`: the numbers of an edit are such that there is a word for each.

## Main statements

- `FieldOptions.ofJson?_toJson`, `CardTemplate.ofJson?_toJson`, `TemplateUpdate.ofJson?_toJson`: records
  within an edit.
- `NoteTypeEdit.ofJson?_toJson`: every edit.
- `NoteTypeEdit.plain_toJson`: the documents of edits are plain values.
-/

namespace Flashcard

open Json

/-! ## Field options -/

namespace FieldOptions

/-- The parts of field options. -/
def slots (o : FieldOptions) : List Slot :=
  [("font", o.font.map .str), ("font_size", o.fontSize.map .ofNat), ("rtl", some (.bool o.rtl)),
    ("sticky", some (.bool o.sticky))]

theorem names_slots (o : FieldOptions) :
    o.slots.map (·.1) = ["font", "font_size", "rtl", "sticky"] := rfl

/-- Options are an object of their slots. -/
theorem toJson_eq (o : FieldOptions) : o.toJson = .obj (ofSlots o.slots) := by
  simp only [toJson, slots, ofSlots_map, ofSlots_some, ofSlots_nil, List.append_assoc]

/-- The size of the font fits 32 bits. -/
def InRange (o : FieldOptions) : Prop := ∀ size ∈ o.fontSize, size < 0x100000000

/-- Options whose numbers are in range are read back. -/
theorem ofJson?_toJson {o : FieldOptions} (h : o.InRange) : ofJson? o.toJson = some o := by
  have hrecord := record?_ofSlots (names_slots o) (by decide) 0
  have distinct : (o.slots.map (·.1)).Nodup := by
    rw [names_slots]
    decide
  have hfont : (ofSlots o.slots).optional "font" str? = some o.font :=
    optional_ofSlots distinct .str (by simp [slots]) fun _ _ => rfl
  have hsize : (ofSlots o.slots).optional "font_size" nat32? = some o.fontSize :=
    optional_ofSlots distinct .ofNat (by simp [slots]) fun size hsize => by
      rw [nat32?, nullable?_ofNat (h size hsize)]
  have hrtl : (ofSlots o.slots).withDefault "rtl" false bool? = some o.rtl :=
    withDefault_ofSlots distinct (j := .bool o.rtl) (by simp [slots]) rfl
  have hsticky : (ofSlots o.slots).withDefault "sticky" false bool? = some o.sticky :=
    withDefault_ofSlots distinct (j := .bool o.sticky) (by simp [slots]) rfl
  rw [toJson_eq, ofJson?]
  simp [hrecord, hfont, hsize, hrtl, hsticky]

/-- They are plain, and lie one deep. -/
theorem plain_toJson {o : FieldOptions} (h : o.InRange) (d : Nat) : Plain (d + 1) o.toJson := by
  have hsize : ∀ size ∈ o.fontSize, Plain d (.ofNat size) := fun size hsize =>
    plain_ofNat d (h size hsize) (by decide)
  rw [toJson_eq]
  refine plain_ofSlots ?_
  simpa [slots, Plain.str, Plain.bool] using hsize

end FieldOptions

/-! ## Templates -/

namespace CardTemplate

/-- The parts of a template. -/
def slots (t : CardTemplate) : List Slot :=
  [("name", some (.str t.name)), ("q_fmt", some (.str t.question)), ("a_fmt", some (.str t.answer)),
    ("styling", some (.str t.styling)), ("if_field_non_empty", t.gate.map .str),
    ("is_cloze", some (.bool t.isCloze)), ("deck_override", t.deckOverride.map .str),
    ("browser_q_fmt", t.browserQuestion.map .str), ("browser_a_fmt", t.browserAnswer.map .str)]

theorem names_slots (t : CardTemplate) : t.slots.map (·.1) =
    ["name", "q_fmt", "a_fmt", "styling", "if_field_non_empty", "is_cloze", "deck_override",
      "browser_q_fmt", "browser_a_fmt"] := rfl

/-- A template is an object of its slots. -/
theorem toJson_eq (t : CardTemplate) : t.toJson = .obj (ofSlots t.slots) := by
  simp only [toJson, slots, ofSlots_map, ofSlots_some, ofSlots_nil, List.append_assoc,
    List.cons_append, List.nil_append, List.append_nil]

/-- A template is read back. -/
theorem ofJson?_toJson (t : CardTemplate) : ofJson? t.toJson = some t := by
  have hrecord := record?_ofSlots (names_slots t) (by decide) 3
  have distinct : (t.slots.map (·.1)).Nodup := by
    rw [names_slots]
    decide
  have hrequired : ∀ name s, (name, some (.str s)) ∈ t.slots →
      (ofSlots t.slots).required name str? = some s := fun _ _ hmem =>
    required_ofSlots distinct hmem rfl
  have hoptional : ∀ name part, (name, part.map .str) ∈ t.slots →
      (ofSlots t.slots).optional name str? = some part := fun _ _ hmem =>
    optional_ofSlots distinct .str hmem fun _ _ => rfl
  have hname := hrequired "name" t.name (by simp [slots])
  have hquestion := hrequired "q_fmt" t.question (by simp [slots])
  have hanswer := hrequired "a_fmt" t.answer (by simp [slots])
  have hstyling : (ofSlots t.slots).withDefault "styling" "" str? = some t.styling :=
    withDefault_ofSlots distinct (j := .str t.styling) (by simp [slots]) rfl
  have hgate := hoptional "if_field_non_empty" t.gate (by simp [slots])
  have hcloze : (ofSlots t.slots).withDefault "is_cloze" false bool? = some t.isCloze :=
    withDefault_ofSlots distinct (j := .bool t.isCloze) (by simp [slots]) rfl
  have hdeck := hoptional "deck_override" t.deckOverride (by simp [slots])
  have hbrowserQuestion := hoptional "browser_q_fmt" t.browserQuestion (by simp [slots])
  have hbrowserAnswer := hoptional "browser_a_fmt" t.browserAnswer (by simp [slots])
  rw [toJson_eq, ofJson?]
  simp [hrecord, hname, hquestion, hanswer, hstyling, hgate, hcloze, hdeck, hbrowserQuestion,
    hbrowserAnswer]

/-- It is plain, and lies one deep. -/
theorem plain_toJson (t : CardTemplate) (d : Nat) : Plain (d + 1) t.toJson := by
  rw [toJson_eq]
  refine plain_ofSlots ?_
  simp [slots, Plain.str, Plain.bool]

end CardTemplate

/-! ## Updates of templates -/

namespace TemplateUpdate

/-- The parts of an update, all of which can be missing. -/
def slots (u : TemplateUpdate) : List Slot :=
  [("q_fmt", u.question.map .str), ("a_fmt", u.answer.map .str), ("styling", u.styling.map .str),
    ("if_field_non_empty", u.gate.map .str), ("deck_override", u.deckOverride.map .str),
    ("browser_q_fmt", u.browserQuestion.map .str), ("browser_a_fmt", u.browserAnswer.map .str)]

theorem names_slots (u : TemplateUpdate) : u.slots.map (·.1) =
    ["q_fmt", "a_fmt", "styling", "if_field_non_empty", "deck_override", "browser_q_fmt",
      "browser_a_fmt"] := rfl

/-- An update is an object of its slots. -/
theorem toJson_eq (u : TemplateUpdate) : u.toJson = .obj (ofSlots u.slots) := by
  simp only [toJson, slots, ofSlots_map, ofSlots_nil, List.append_assoc, List.append_nil]

/-- An update is read back. -/
theorem ofJson?_toJson (u : TemplateUpdate) : ofJson? u.toJson = some u := by
  have hrecord := record?_ofSlots (names_slots u) (by decide) 0
  have distinct : (u.slots.map (·.1)).Nodup := by
    rw [names_slots]
    decide
  have hoptional : ∀ name part, (name, part.map .str) ∈ u.slots →
      (ofSlots u.slots).optional name str? = some part := fun _ _ hmem =>
    optional_ofSlots distinct .str hmem fun _ _ => rfl
  have hquestion := hoptional "q_fmt" u.question (by simp [slots])
  have hanswer := hoptional "a_fmt" u.answer (by simp [slots])
  have hstyling := hoptional "styling" u.styling (by simp [slots])
  have hgate := hoptional "if_field_non_empty" u.gate (by simp [slots])
  have hdeck := hoptional "deck_override" u.deckOverride (by simp [slots])
  have hbrowserQuestion := hoptional "browser_q_fmt" u.browserQuestion (by simp [slots])
  have hbrowserAnswer := hoptional "browser_a_fmt" u.browserAnswer (by simp [slots])
  rw [toJson_eq, ofJson?]
  simp [hrecord, hquestion, hanswer, hstyling, hgate, hdeck, hbrowserQuestion, hbrowserAnswer]

/-- It is plain, and lies one deep. -/
theorem plain_toJson (u : TemplateUpdate) (d : Nat) : Plain (d + 1) u.toJson := by
  rw [toJson_eq]
  refine plain_ofSlots ?_
  simp [slots, Plain.str]

end TemplateUpdate

/-! ## Edits -/

namespace NoteTypeEdit

/-- There is a word for each number: of 64 bits for positions, of 32 for the size of a font. -/
def InRange : NoteTypeEdit → Prop
  | addField _ position => ∀ p ∈ position, p < 0x10000000000000000
  | setSortField index => index < 0x10000000000000000
  | setFieldOptions _ options => options.InRange
  | _ => True

/-- The parts of an edit are read by its kind. -/
theorem ofParts?_parts {e : NoteTypeEdit} (h : e.InRange) :
    ofParts? e.parts.1 (.obj e.parts.2) = some e := by
  -- what is read of a part is stated for any value, which keeps the value itself folded
  cases e with
  | addField name position =>
    have hread : ∀ j, ofParts? "add_field" (.obj [("name", .str name), ("position", j)]) =
        (nullable? nat64? j).bind fun position => some (addField name position) := fun _ => rfl
    refine (hread (.ofOption .ofNat position)).trans ?_
    rw [nat64?, nullable?_ofOption_ofNat h, Option.bind_some]
  | renameField oldName newName => rfl
  | removeField name => rfl
  | reorderFields fields =>
    have hread : ∀ j, ofParts? "reorder_fields" (.obj [("fields", j)]) =
        (list? str? j).bind fun fields => some (reorderFields fields) := fun _ => rfl
    refine (hread (.ofStrings fields)).trans ?_
    rw [list?_ofStrings, Option.bind_some]
  | setSortField index =>
    have hread : ∀ j, ofParts? "set_sort_field" (.obj [("index", j)]) =
        (nat64? j).bind fun index => some (setSortField index) := fun _ => rfl
    refine (hread (.ofNat index)).trans ?_
    rw [nat64?, natBelow?_ofNat h, Option.bind_some]
  | setFieldOptions field options =>
    have hread : ∀ j, ofParts? "set_field_options" (.obj [("field", .str field), ("options", j)]) =
        (FieldOptions.ofJson? j).bind fun options => some (setFieldOptions field options) :=
      fun _ => rfl
    refine (hread options.toJson).trans ?_
    rw [FieldOptions.ofJson?_toJson h, Option.bind_some]
  | updateTemplate name update =>
    have hread : ∀ j, ofParts? "update_template" (.obj [("name", .str name), ("update", j)]) =
        (TemplateUpdate.ofJson? j).bind fun update => some (updateTemplate name update) :=
      fun _ => rfl
    refine (hread update.toJson).trans ?_
    rw [TemplateUpdate.ofJson?_toJson, Option.bind_some]
  | addTemplate template =>
    have hread : ∀ j, ofParts? "add_template" (.obj [("template", j)]) =
        (CardTemplate.ofJson? j).bind fun template => some (addTemplate template) := fun _ => rfl
    refine (hread template.toJson).trans ?_
    rw [CardTemplate.ofJson?_toJson, Option.bind_some]
  | removeTemplate name => rfl

/-- The parts of an edit are plain. -/
theorem plain_parts {e : NoteTypeEdit} (h : e.InRange) : ∀ m ∈ e.parts.2, Plain 1 m.2 := by
  cases e with
  | addField name position =>
    have hposition := plain_ofOption_ofNat 1 h (by decide)
    simp [parts, Plain.str, hposition]
  | setSortField index => simp [parts, plain_ofNat 1 h (by decide)]
  | setFieldOptions field options => simp [parts, Plain.str, FieldOptions.plain_toJson h]
  | updateTemplate name update => simp [parts, Plain.str, TemplateUpdate.plain_toJson]
  | addTemplate template => simp [parts, CardTemplate.plain_toJson]
  | reorderFields fields => simp [parts, plain_ofStrings]
  | renameField oldName newName => simp [parts, Plain.str]
  | removeField name | removeTemplate name => simp [parts, Plain.str]

/-- No part is taken for the one that names the kind. -/
theorem ne_kindMember (e : NoteTypeEdit) : ∀ m ∈ e.parts.2, m.1 ≠ kindMember := by
  cases e <;> simp [parts, kindMember]

/-- And so is the edit, two deep. -/
theorem plain_toJson {e : NoteTypeEdit} (h : e.InRange) : Plain 2 e.toJson := by
  refine .obj fun m hm => ?_
  rcases List.mem_cons.mp hm with rfl | hm
  · exact .str 1 e.parts.1
  · exact plain_parts h m hm

/-- **Every edit is read back from its document.** -/
theorem ofJson?_toJson {e : NoteTypeEdit} (h : e.InRange) : ofJson? e.toJson = some e := by
  have hdocument := (plain_toJson h).isDocument (by decide)
  have hkind : ((kindMember, Json.str e.parts.1) :: e.parts.2).filter (·.1 == kindMember) =
      [(kindMember, .str e.parts.1)] := by
    have hnone : e.parts.2.filter (·.1 == kindMember) = [] :=
      List.filter_eq_nil_iff.mpr fun m hm heq => ne_kindMember e m hm (beq_iff_eq.mp heq)
    rw [List.filter_cons, beq_self_eq_true, if_pos rfl, hnone]
  have hbody : ((kindMember, Json.str e.parts.1) :: e.parts.2).filter (·.1 != kindMember) =
      e.parts.2 := by
    have hall : e.parts.2.filter (·.1 != kindMember) = e.parts.2 :=
      List.filter_eq_self.mpr fun m hm => bne_iff_ne.mpr (ne_kindMember e m hm)
    rw [List.filter_cons, bne_self_eq_false, if_neg Bool.false_ne_true, hall]
  rw [toJson] at hdocument ⊢
  simp only [ofJson?, hdocument, hkind, hbody]
  exact ofParts?_parts h

end NoteTypeEdit

end Flashcard
