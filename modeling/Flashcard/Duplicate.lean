import Flashcard.Card
import Flashcard.Text.Blank
import Flashcard.Text.LowerCase

/-!
# Duplicate notes

Two values count as the same if they are, after their blank ends are cut, in lower case.

- `DuplicateQuery`: what to look for.
- `findDuplicates`: the notes that have it.
-/

namespace Flashcard

/-- A value as it is compared. -/
def normalize (value : String) : String := Text.lowerCase (Text.trim value)

/-- A field and the value to look for in it. -/
structure DuplicateQuery where
  field : String
  value : String
  /-- If given, only notes with a card in this deck count. -/
  deck : Option DeckId := none

/-- The notes whose field has the wanted value. Nothing is the same as a blank value. -/
def findDuplicates (notes : List Note) (query : DuplicateQuery) (inDeck : NoteId → DeckId → Bool) :
    List NoteBrief :=
  let wanted := normalize query.value
  if wanted = "" then []
  else
    let found := notes.filter fun note =>
      normalize (note.fields.value query.field) == wanted &&
        match query.deck with
        | none => true
        | some deck => inDeck note.id deck
    found.map Note.brief

end Flashcard
