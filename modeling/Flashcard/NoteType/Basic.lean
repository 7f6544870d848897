import Flashcard.SortedMap
import Flashcard.Text.Blank

/-!
# Note types

A note type says which fields a note has and which templates turn the note into cards.

- `CardTemplate`: the formats of one kind of card, and when and where it is made.
- `NoteType`: ordered fields and templates.
- `NoteType.Lookup`: ways to find a note type by name.
-/

namespace Flashcard

/-- How a field is shown in an editor. Cards do not depend on it. -/
structure FieldOptions where
  font : Option String := none
  fontSize : Option Nat := none
  rtl : Bool := false
  sticky : Bool := false
  deriving Repr, DecidableEq

/-- One kind of card that a note gives. -/
structure CardTemplate where
  name : String
  /-- Format of the front. -/
  question : String
  /-- Format of the back, which may show the front again. -/
  answer : String
  styling : String := ""
  /-- A field that has to be filled in for a plain card to be made; a blank one asks for nothing. -/
  gate : Option String := none
  /-- Whether a card is made for each cloze number of the note, and not one for the whole note. -/
  isCloze : Bool := false
  /-- The deck of new cards, whatever the deck of the note; a blank one changes nothing. -/
  deckOverride : Option String := none
  browserQuestion : Option String := none
  browserAnswer : Option String := none
  deriving Repr, DecidableEq

namespace CardTemplate

/-- The field that has to be filled in, if there is one. -/
def gateField? (t : CardTemplate) : Option String := t.gate.bind Text.nonBlank?

/-- The deck that new cards go to whatever the deck of the note, if there is one. -/
def deckName? (t : CardTemplate) : Option String := t.deckOverride.bind Text.nonBlank?

end CardTemplate

/-- Ordered fields, and the templates that turn a note into cards. -/
structure NoteType where
  name : String
  fields : List String
  templates : List CardTemplate
  /-- The position of the field that notes are sorted by; it stays when the fields move. -/
  sortIndex : Nat := 0
  fieldOptions : SortedMap String FieldOptions := .empty
  deriving DecidableEq

namespace NoteType

/-- Whether the note type has a field of this name. -/
def hasField (nt : NoteType) (name : String) : Bool := nt.fields.contains name

/-- The first template of this name. -/
def template? (nt : NoteType) (name : String) : Option CardTemplate :=
  nt.templates.find? (·.name == name)

/-- The field that notes are sorted by, if the sort position is one of the fields. -/
def sortField? (nt : NoteType) : Option String := nt.fields[nt.sortIndex]?

/-- A way to find a note type by its name. -/
abbrev Lookup := String → Option NoteType

/-- Finds one note type and no other. -/
def Lookup.only (nt : NoteType) : Lookup := fun name => if nt.name = name then some nt else none

/-- Finds the first of several note types that has the name. -/
def Lookup.first (types : List NoteType) : Lookup := fun name => types.find? (·.name == name)

/-- Finds the last of several note types that has the name. -/
def Lookup.last (types : List NoteType) : Lookup :=
  (SortedMap.ofList (types.map fun nt => (nt.name, nt))).get?

end NoteType

end Flashcard
