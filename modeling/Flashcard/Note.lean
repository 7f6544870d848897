import Flashcard.SortedMap
import Flashcard.Time.Timestamp

/-!
# Notes

- `lastId`: the end of the ids and of the update sequence numbers.
- `FieldMap`: the values of a note's fields; a field without a value counts as empty.
- `Note`: what the user entered. `NoteBrief`: its short form.
-/

namespace Flashcard

abbrev NoteId := Int

/-- Update sequence number: each change of a collection is marked with the next one. -/
abbrev Usn := Int

/-- The last id, and the last update sequence number: both have 64 bits with a sign. -/
def lastId : Int := 0x7FFFFFFFFFFFFFFF

/-- Values by field name. -/
abbrev FieldMap := SortedMap String String

/-- The value of a field, empty where there is none. -/
def FieldMap.value (fields : FieldMap) (name : String) : String := fields.getD name ""

/-- What the user entered: values for the fields of a note type. -/
structure Note where
  id : NoteId
  typeName : String
  fields : FieldMap
  tags : List String
  createdAt : Timestamp
  modifiedAt : Timestamp
  usn : Usn
  deriving DecidableEq

/-- The short form of a note that listings of duplicates show. -/
structure NoteBrief where
  id : NoteId
  typeName : String
  fields : FieldMap
  deriving DecidableEq

/-- The short form of a note. -/
def Note.brief (note : Note) : NoteBrief := ⟨note.id, note.typeName, note.fields⟩

end Flashcard
