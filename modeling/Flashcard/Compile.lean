import Flashcard.Card
import Flashcard.Cloze.Render
import Flashcard.NoteType.Basic

/-!
# From a note to its cards

Each template of a note type is taken in turn. A plain template gives one draft, unless its gate
field is blank. A cloze template gives one draft for each number in the field `Text`.

- `NoteType.drafts`: the drafts of field values.
- `compile`: the drafts of a note, whose type is looked up.
-/

namespace Flashcard

/-- The field whose numbers say which cards a cloze template makes. -/
def clozeSource : String := "Text"

/-- The numbers of the cards that cloze templates make. -/
def clozeOrdinals (fields : FieldMap) : List UInt32 := Cloze.ordinals (fields.value clozeSource)

namespace CardTemplate

/-- Whether a plain template makes a card: its gate, if it has one, is filled in. -/
def isOpen (t : CardTemplate) (fields : FieldMap) : Bool :=
  match t.gateField? with
  | none => true
  | some gate => !Text.allBlank (fields.value gate)

/-- The draft of a plain template. Its back may show the front. -/
def plainDraft (t : CardTemplate) (fields : FieldMap) : CardDraft :=
  let front := Template.render t.question fields none
  ⟨t.name, 0, front, Template.render t.answer fields (some front)⟩

/-- The draft of a cloze template for one number. Its front hides what its back shows. -/
def clozeDraft (t : CardTemplate) (fields : FieldMap) (ordinal : UInt32) : CardDraft :=
  let front := Cloze.expand t.question fields none ordinal false
  ⟨t.name, ordinal, front, Cloze.expand t.answer fields (some front) ordinal true⟩

/-- The drafts of one template. -/
def drafts (t : CardTemplate) (fields : FieldMap) : List CardDraft :=
  if t.isCloze then (clozeOrdinals fields).map (t.clozeDraft fields)
  else if t.isOpen fields then [t.plainDraft fields]
  else []

end CardTemplate

/-- The drafts of field values, in the order of the templates. -/
def NoteType.drafts (nt : NoteType) (fields : FieldMap) : List CardDraft :=
  nt.templates.flatMap (·.drafts fields)

/-- Why a note cannot be compiled. A field without a value is no reason. -/
inductive CompileError where
  | unknownNoteType (name : String)
  deriving Repr, DecidableEq

/-- The message of a compile error. -/
def CompileError.message : CompileError → String
  | .unknownNoteType name => "unknown note type: " ++ name

/-- The drafts of field values for the note type of a given name. -/
def compile (types : NoteType.Lookup) (typeName : String) (fields : FieldMap) :
    Except CompileError (List CardDraft) :=
  match types typeName with
  | none => .error (.unknownNoteType typeName)
  | some nt => .ok (nt.drafts fields)

end Flashcard
