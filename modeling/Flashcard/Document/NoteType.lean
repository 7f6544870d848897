import Flashcard.Json.Decode
import Flashcard.NoteType.Edit

/-!
# Note types as documents

The JSON forms of note types and of edits to them. Parts that are absent are left out of what is
written; an edit is a record whose member `op` names its kind.

- `FieldOptions`, `CardTemplate`, `NoteType`, `TemplateUpdate`, `NoteTypeEdit`: each with `toJson`
  and `ofJson?`.
-/

namespace Flashcard

namespace Json

/-- A member, if it is present. -/
def member? {α : Type} (name : String) (toJson : α → Json) : Option α → List (String × Json)
  | none => []
  | some a => [(name, toJson a)]

/-- A natural number. -/
def ofNat (n : Nat) : Json := .int n

/-- A list of strings. -/
def ofStrings (strings : List String) : Json := .arr (strings.map .str)

/-- A map as an object, by the order of its keys. -/
def ofMap {α : Type} (toJson : α → Json) (map : SortedMap String α) : Json :=
  .obj (map.entries.map fun e => (e.1, toJson e.2))

end Json

open Json (member?)

namespace FieldOptions

/-- The document of field options. -/
def toJson (o : FieldOptions) : Json :=
  .obj (member? "font" .str o.font ++ member? "font_size" .ofNat o.fontSize ++
    [("rtl", .bool o.rtl), ("sticky", .bool o.sticky)])

/-- The field options of a document. -/
def ofJson? (j : Json) : Option FieldOptions := do
  let r ← j.record? ["font", "font_size", "rtl", "sticky"] 0
  pure {
    font := ← r.optional "font" Json.str?
    fontSize := ← r.optional "font_size" Json.nat32?
    rtl := ← r.withDefault "rtl" false Json.bool?
    sticky := ← r.withDefault "sticky" false Json.bool? }

end FieldOptions

namespace CardTemplate

/-- The document of a template. -/
def toJson (t : CardTemplate) : Json :=
  .obj ([("name", .str t.name), ("q_fmt", .str t.question), ("a_fmt", .str t.answer),
      ("styling", .str t.styling)] ++
    member? "if_field_non_empty" .str t.gate ++ [("is_cloze", .bool t.isCloze)] ++
    member? "deck_override" .str t.deckOverride ++
    member? "browser_q_fmt" .str t.browserQuestion ++
    member? "browser_a_fmt" .str t.browserAnswer)

/-- The template of a document. -/
def ofJson? (j : Json) : Option CardTemplate := do
  let r ← j.record?
    ["name", "q_fmt", "a_fmt", "styling", "if_field_non_empty", "is_cloze", "deck_override",
      "browser_q_fmt", "browser_a_fmt"] 3
  pure {
    name := ← r.required "name" Json.str?
    question := ← r.required "q_fmt" Json.str?
    answer := ← r.required "a_fmt" Json.str?
    styling := ← r.withDefault "styling" "" Json.str?
    gate := ← r.optional "if_field_non_empty" Json.str?
    isCloze := ← r.withDefault "is_cloze" false Json.bool?
    deckOverride := ← r.optional "deck_override" Json.str?
    browserQuestion := ← r.optional "browser_q_fmt" Json.str?
    browserAnswer := ← r.optional "browser_a_fmt" Json.str? }

end CardTemplate

namespace NoteType

/-- The document of a note type. -/
def toJson (nt : NoteType) : Json :=
  .obj ([("name", .str nt.name), ("fields", .ofStrings nt.fields),
      ("templates", .arr (nt.templates.map CardTemplate.toJson)),
      ("sort_field_index", .ofNat nt.sortIndex)] ++
    if nt.fieldOptions.isEmpty then []
    else [("field_options", .ofMap FieldOptions.toJson nt.fieldOptions)])

/-- The note type of a document. -/
def ofJson? (j : Json) : Option NoteType := do
  let r ← j.record? ["name", "fields", "templates", "sort_field_index", "field_options"] 3
  pure {
    name := ← r.required "name" Json.str?
    fields := ← r.required "fields" (Json.list? Json.str?)
    templates := ← r.required "templates" (Json.list? CardTemplate.ofJson?)
    sortIndex := ← r.withDefault "sort_field_index" 0 Json.nat64?
    fieldOptions := ← r.withDefault "field_options" .empty (Json.map? FieldOptions.ofJson?) }

end NoteType

namespace TemplateUpdate

/-- The document of a template update. -/
def toJson (u : TemplateUpdate) : Json :=
  .obj (member? "q_fmt" .str u.question ++ member? "a_fmt" .str u.answer ++
    member? "styling" .str u.styling ++ member? "if_field_non_empty" .str u.gate ++
    member? "deck_override" .str u.deckOverride ++
    member? "browser_q_fmt" .str u.browserQuestion ++
    member? "browser_a_fmt" .str u.browserAnswer)

/-- The template update of a document. -/
def ofJson? (j : Json) : Option TemplateUpdate := do
  let r ← j.record?
    ["q_fmt", "a_fmt", "styling", "if_field_non_empty", "deck_override", "browser_q_fmt",
      "browser_a_fmt"] 0
  pure {
    question := ← r.optional "q_fmt" Json.str?
    answer := ← r.optional "a_fmt" Json.str?
    styling := ← r.optional "styling" Json.str?
    gate := ← r.optional "if_field_non_empty" Json.str?
    deckOverride := ← r.optional "deck_override" Json.str?
    browserQuestion := ← r.optional "browser_q_fmt" Json.str?
    browserAnswer := ← r.optional "browser_a_fmt" Json.str? }

end TemplateUpdate

namespace NoteTypeEdit

/-- The member that names the kind of an edit. -/
def kindMember : String := "op"

/-- The kind of an edit and its members. -/
def parts : NoteTypeEdit → String × List (String × Json)
  | addField name position =>
    ("add_field", [("name", .str name), ("position", .ofOption .ofNat position)])
  | renameField oldName newName =>
    ("rename_field", [("old_name", .str oldName), ("new_name", .str newName)])
  | removeField name => ("remove_field", [("name", .str name)])
  | reorderFields fields => ("reorder_fields", [("fields", .ofStrings fields)])
  | setSortField index => ("set_sort_field", [("index", .ofNat index)])
  | setFieldOptions field options =>
    ("set_field_options", [("field", .str field), ("options", options.toJson)])
  | updateTemplate name update =>
    ("update_template", [("name", .str name), ("update", update.toJson)])
  | addTemplate template => ("add_template", [("template", template.toJson)])
  | removeTemplate name => ("remove_template", [("name", .str name)])

/-- The document of an edit. -/
def toJson (e : NoteTypeEdit) : Json := .obj ((kindMember, .str e.parts.1) :: e.parts.2)

/-- The edit of a kind whose members are in `body`. -/
def ofParts? (kind : String) (body : Json) : Option NoteTypeEdit :=
  match kind with
  | "add_field" => do
    let r ← body.record? ["name", "position"] 1
    pure (addField (← r.required "name" Json.str?) (← r.optional "position" Json.nat64?))
  | "rename_field" => do
    let r ← body.record? ["old_name", "new_name"] 2
    pure (renameField (← r.required "old_name" Json.str?) (← r.required "new_name" Json.str?))
  | "remove_field" => do
    let r ← body.record? ["name"] 1
    pure (removeField (← r.required "name" Json.str?))
  | "reorder_fields" => do
    let r ← body.record? ["fields"] 1
    pure (reorderFields (← r.required "fields" (Json.list? Json.str?)))
  | "set_sort_field" => do
    let r ← body.record? ["index"] 1
    pure (setSortField (← r.required "index" Json.nat64?))
  | "set_field_options" => do
    let r ← body.record? ["field", "options"] 2
    pure (setFieldOptions (← r.required "field" Json.str?)
      (← r.required "options" FieldOptions.ofJson?))
  | "update_template" => do
    let r ← body.record? ["name", "update"] 2
    pure (updateTemplate (← r.required "name" Json.str?)
      (← r.required "update" TemplateUpdate.ofJson?))
  | "add_template" => do
    let r ← body.record? ["template"] 1
    pure (addTemplate (← r.required "template" CardTemplate.ofJson?))
  | "remove_template" => do
    let r ← body.record? ["name"] 1
    pure (removeTemplate (← r.required "name" Json.str?))
  | _ => none

/-- The edit of a document. The kind is looked for among all members, or is the first item of an
array; the whole document has to keep to its limits. -/
def ofJson? (j : Json) : Option NoteTypeEdit :=
  if !j.isDocument then none
  else match j with
    | .obj members =>
      match members.filter (·.1 == kindMember) with
      | [(_, .str kind)] => ofParts? kind (.obj (members.filter (·.1 != kindMember)))
      | _ => none
    | .arr (.str kind :: items) => ofParts? kind (.arr items)
    | _ => none

end NoteTypeEdit

end Flashcard
