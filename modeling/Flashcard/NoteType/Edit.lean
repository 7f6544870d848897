import Flashcard.NoteType.Basic
import Flashcard.Template.Field

/-!
# Editing note types

An edit is checked against the note type and either gives the edited note type or a reason why not.
A rename is carried into the templates, gates and field options, so that they go on speaking of the
same field; a removal clears gates and options of the field, but leaves template texts alone.

- `NoteTypeEdit`: the edits. `EditError`: why one is refused.
- `NoteType.edit`: the note type after an edit.
- `NoteTypeEdit.apply`: an edit of the note type at hand. `NoteType.afterEdits`: the note type after
  a list of edits, granted or refused.
- `NoteTypeEdit.affectsCards`: whether an edit can change the cards of notes.
-/

namespace Flashcard

/-- Field names with a meaning of their own in templates. -/
def reservedFieldNames : List String := ["Tags", "Type", "Deck", "Card", "FrontSide"]

/-- New values for parts of a template. What is `none` stays; for the optional parts a blank value
removes the old one. -/
structure TemplateUpdate where
  question : Option String := none
  answer : Option String := none
  styling : Option String := none
  gate : Option String := none
  deckOverride : Option String := none
  browserQuestion : Option String := none
  browserAnswer : Option String := none
  deriving Repr, DecidableEq

/-- A change to a note type. -/
inductive NoteTypeEdit where
  /-- A new field, before the field at a position, or else last. -/
  | addField (name : String) (position : Option Nat)
  | renameField (oldName newName : String)
  | removeField (name : String)
  | reorderFields (fields : List String)
  | setSortField (index : Nat)
  | setFieldOptions (field : String) (options : FieldOptions)
  | updateTemplate (name : String) (update : TemplateUpdate)
  | addTemplate (template : CardTemplate)
  | removeTemplate (name : String)
  deriving Repr, DecidableEq

/-- Whether cards may have to be made anew after an edit. -/
def NoteTypeEdit.affectsCards : NoteTypeEdit → Bool
  | renameField .. | removeField .. | updateTemplate .. | addTemplate .. | removeTemplate .. => true
  | addField .. | reorderFields .. | setSortField .. | setFieldOptions .. => false

/-- Why an order of fields is refused. -/
inductive OrderFault where
  | length (expected actual : Nat)
  | names
  deriving Repr, DecidableEq

/-- Why an edit is refused. -/
inductive EditError where
  | emptyName
  | reservedFieldName (name : String)
  | duplicateField (name : String)
  | fieldNotFound (name : String)
  | lastField
  | fieldOrderMismatch (fault : OrderFault)
  | invalidSortField (index count : Nat)
  | invalidGateField (name : String)
  | templateNotFound (name : String)
  | duplicateTemplate (name : String)
  | lastTemplate
  deriving Repr, DecidableEq

/-- The message of a refused order. -/
def OrderFault.message : OrderFault → String
  | length expected actual =>
    "expected " ++ toString expected ++ " fields, got " ++ toString actual
  | names => "fields must be a permutation of the current fields"

/-- The message of a refused edit. -/
def EditError.message : EditError → String
  | emptyName => "name must not be empty"
  | reservedFieldName name => "'" ++ name ++ "' is a reserved field name"
  | duplicateField name => "field name already exists: " ++ name
  | fieldNotFound name => "field not found: " ++ name
  | lastField => "cannot remove the last field"
  | fieldOrderMismatch fault => "field order mismatch: " ++ fault.message
  | invalidSortField index count =>
    "invalid sort field index " ++ toString index ++ " for " ++ toString count ++ " fields"
  | invalidGateField name => "gate field does not exist: " ++ name
  | templateNotFound name => "template not found: " ++ name
  | duplicateTemplate name => "template name already exists: " ++ name
  | lastTemplate => "cannot remove the last template"

/-! ## Templates -/

namespace CardTemplate

/-- The template after a field was renamed. -/
def renameField (t : CardTemplate) (oldName newName : String) : CardTemplate :=
  let rename (format : String) := Template.renameReferences format oldName newName
  { t with
    question := rename t.question
    answer := rename t.answer
    browserQuestion := t.browserQuestion.map rename
    browserAnswer := t.browserAnswer.map rename
    gate := if t.gate = some oldName then some newName else t.gate }

/-- The template after a field was removed. -/
def removeField (t : CardTemplate) (name : String) : CardTemplate :=
  { t with gate := if t.gate = some name then none else t.gate }

/-- An optional part after an update, for which a blank value stands for none. -/
def updatePart (old new : Option String) : Option String :=
  match new with
  | none => old
  | some value => Text.nonBlank? value

/-- The template with new values for some parts. -/
def update (t : CardTemplate) (u : TemplateUpdate) : CardTemplate :=
  { t with
    question := u.question.getD t.question
    answer := u.answer.getD t.answer
    styling := u.styling.getD t.styling
    gate := updatePart t.gate u.gate
    deckOverride := updatePart t.deckOverride u.deckOverride
    browserQuestion := updatePart t.browserQuestion u.browserQuestion
    browserAnswer := updatePart t.browserAnswer u.browserAnswer }

end CardTemplate

/-! ## Note types -/

namespace NoteType

/-- Refuses names that cannot become a field of the note type. -/
def checkNewField (nt : NoteType) (name : String) : Except EditError Unit :=
  if Text.allBlank name then .error .emptyName
  else if name ∈ reservedFieldNames then .error (.reservedFieldName name)
  else if nt.hasField name then .error (.duplicateField name)
  else .ok ()

/-- Refuses a gate that is no field of the note type; a blank one is no gate. -/
def checkGate (nt : NoteType) (gate : Option String) : Except EditError Unit :=
  match gate.bind Text.nonBlank? with
  | none => .ok ()
  | some field => if nt.hasField field then .ok () else .error (.invalidGateField field)

/-- The position of the first field of a name. -/
def fieldIndex (nt : NoteType) (name : String) : Except EditError Nat :=
  match nt.fields.idxOf? name with
  | none => .error (.fieldNotFound name)
  | some index => .ok index

/-- The position of the first template of a name. -/
def templateIndex (nt : NoteType) (name : String) : Except EditError Nat :=
  match nt.templates.findIdx? (·.name == name) with
  | none => .error (.templateNotFound name)
  | some index => .ok index

/-- Adds a field before the one at `position`, or last if there is none. -/
def addField (nt : NoteType) (name : String) (position : Option Nat) :
    Except EditError NoteType := do
  nt.checkNewField name
  let index := min (position.getD nt.fields.length) nt.fields.length
  pure { nt with fields := nt.fields.insertIdx index name }

/-- Gives a field a new name, here and in the templates. -/
def renameField (nt : NoteType) (oldName newName : String) : Except EditError NoteType := do
  let index ← nt.fieldIndex oldName
  if oldName = newName then pure nt
  else
    nt.checkNewField newName
    pure { nt with
      fields := nt.fields.set index newName
      templates := nt.templates.map (·.renameField oldName newName)
      fieldOptions :=
        match nt.fieldOptions.get? oldName with
        | none => nt.fieldOptions
        | some options => (nt.fieldOptions.erase oldName).insert newName options }

/-- Removes a field, and moves the sort position if it was behind the last one left. -/
def removeField (nt : NoteType) (name : String) : Except EditError NoteType := do
  if nt.fields.length ≤ 1 then throw .lastField
  let index ← nt.fieldIndex name
  let fields := nt.fields.eraseIdx index
  pure { nt with
    fields
    fieldOptions := nt.fieldOptions.erase name
    templates := nt.templates.map (·.removeField name)
    sortIndex := min nt.sortIndex (fields.length - 1) }

/-- Puts the fields in a new order. The sort position stays, so it may now mean another field. -/
def reorderFields (nt : NoteType) (fields : List String) : Except EditError NoteType :=
  if fields.length ≠ nt.fields.length then
    .error (.fieldOrderMismatch (.length nt.fields.length fields.length))
  else if nt.fields.mergeSort ≠ fields.mergeSort then .error (.fieldOrderMismatch .names)
  else .ok { nt with fields }

/-- Sorts notes by the field at a position. -/
def setSortField (nt : NoteType) (index : Nat) : Except EditError NoteType :=
  if index < nt.fields.length then .ok { nt with sortIndex := index }
  else .error (.invalidSortField index nt.fields.length)

/-- Sets how a field is shown in an editor. -/
def setFieldOptions (nt : NoteType) (field : String) (options : FieldOptions) :
    Except EditError NoteType :=
  if nt.hasField field then .ok { nt with fieldOptions := nt.fieldOptions.insert field options }
  else .error (.fieldNotFound field)

/-- Changes parts of a template. -/
def updateTemplate (nt : NoteType) (name : String) (update : TemplateUpdate) :
    Except EditError NoteType := do
  nt.checkGate update.gate
  let index ← nt.templateIndex name
  pure { nt with templates := nt.templates.modify index (·.update update) }

/-- Adds a template as the last one. -/
def addTemplate (nt : NoteType) (template : CardTemplate) : Except EditError NoteType := do
  if Text.allBlank template.name then throw .emptyName
  if (nt.template? template.name).isSome then throw (.duplicateTemplate template.name)
  nt.checkGate template.gate
  pure { nt with templates := nt.templates ++ [template] }

/-- Removes a template. -/
def removeTemplate (nt : NoteType) (name : String) : Except EditError NoteType := do
  let index ← nt.templateIndex name
  if nt.templates.length ≤ 1 then throw .lastTemplate
  pure { nt with templates := nt.templates.eraseIdx index }

/-- The note type after an edit. -/
def edit (nt : NoteType) : NoteTypeEdit → Except EditError NoteType
  | .addField name position => nt.addField name position
  | .renameField oldName newName => nt.renameField oldName newName
  | .removeField name => nt.removeField name
  | .reorderFields fields => nt.reorderFields fields
  | .setSortField index => nt.setSortField index
  | .setFieldOptions field options => nt.setFieldOptions field options
  | .updateTemplate name update => nt.updateTemplate name update
  | .addTemplate template => nt.addTemplate template
  | .removeTemplate name => nt.removeTemplate name

end NoteType

/-! ## Edits one after the other -/

/-- Applies an edit to the note type at hand. -/
def NoteTypeEdit.apply (edit : NoteTypeEdit) : EStateM EditError NoteType Unit := do
  match (← get).edit edit with
  | .ok edited => set edited
  | .error e => throw e

/-- The note type after edits, some of which may be refused. -/
def NoteType.afterEdits (nt : NoteType) (edits : List NoteTypeEdit) : NoteType :=
  edits.foldl (fun nt edit =>
    match edit.apply nt with
    | .ok () after => after
    | .error _ after => after) nt

end Flashcard
