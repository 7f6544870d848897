import Flashcard.Card
import Flashcard.Time.Rfc3339

/-!
# What can go wrong in a store

- `StoreError`: something is missing, the store refuses to work, or stored data cannot be read.
- `BackendFault`, `CorruptFault`: the reasons for the last two.
-/

namespace Flashcard

/-- The things that a store is asked for by id. -/
inductive Entity where
  | note
  | card
  deriving Repr, DecidableEq

/-- The name of an entity. -/
def Entity.name : Entity → String
  | note => "note"
  | card => "card"

/-- The columns of a stored note that hold a value. -/
inductive NoteColumn where
  | fields
  | tags
  | createdAt
  | modifiedAt
  | usn
  deriving Repr, DecidableEq

namespace NoteColumn

/-- The name of a column. -/
def name : NoteColumn → String
  | fields => "field_map"
  | tags => "tags"
  | createdAt => "created_at"
  | modifiedAt => "modified_at"
  | usn => "usn"

/-- The column of a name. -/
def ofName? : String → Option NoteColumn
  | "field_map" => some fields
  | "tags" => some tags
  | "created_at" => some createdAt
  | "modified_at" => some modifiedAt
  | "usn" => some usn
  | _ => none

/-- The place of a column among all columns. -/
def position : NoteColumn → Nat
  | fields => 2
  | tags => 3
  | createdAt => 4
  | modifiedAt => 5
  | usn => 6

end NoteColumn

/-- Kinds of values that columns are not meant for. -/
inductive StorageClass where
  | real
  | text
  | blob
  deriving Repr, DecidableEq

/-- The name of a kind of values. -/
def StorageClass.name : StorageClass → String
  | real => "Real"
  | text => "Text"
  | blob => "Blob"

/-- The kind of a name. -/
def StorageClass.ofName? : String → Option StorageClass
  | "Real" => some real
  | "Text" => some text
  | "Blob" => some blob
  | _ => none

/-- Why a store refuses to work. -/
inductive BackendFault where
  /-- Work on this note was made to fail. -/
  | injected (note : NoteId)
  /-- A row with the same values in these columns is there already. -/
  | duplicate (columns : String)
  /-- A row refers to a row that is not there. -/
  | dangling
  /-- A stored number does not fit the type of its column, which has this position. -/
  | outOfRange (value : Int) (position : Nat)
  /-- A column would hold no value, which it must. -/
  | missing (column : String)
  /-- A column of a note holds a value of a kind that it is not meant for. -/
  | misfit (column : NoteColumn) (kind : StorageClass)
  /-- No id of 64 bits comes after the highest one. -/
  | idsExhausted
  /-- No update sequence number of 64 bits comes after the highest one. -/
  | usnExhausted
  deriving Repr, DecidableEq

/-- The message of a refusal. -/
def BackendFault.message : BackendFault → String
  | injected note => "injected failure for note " ++ toString note
  | duplicate columns => "UNIQUE constraint failed: " ++ columns
  | dangling => "FOREIGN KEY constraint failed"
  | outOfRange value position =>
    "Integer " ++ toString value ++ " out of range at index " ++ toString position
  | missing column => "NOT NULL constraint failed: " ++ column
  | misfit column kind =>
    "Invalid column type " ++ kind.name ++ " at index: " ++ toString column.position ++
      ", name: " ++ column.name
  | idsExhausted => "Invalid column type Real at index: 0, name: COALESCE(MAX(id), 0) + 1"
  | usnExhausted => "attempt to add with overflow"

/-- Why stored data cannot be read. -/
inductive CorruptFault where
  /-- A note is not readable, for a reason kept with it. -/
  | note (id : NoteId) (reason : String)
  /-- The document with a note's field values is not readable. -/
  | fieldData (id : NoteId) (reason : String)
  /-- Some other document is not readable. -/
  | document (reason : String)
  | timestamp (text : String) (error : Timestamp.ReadError)
  | rating (grade : Int)
  | status (name : String)
  | sortIndex (index : Int)
  deriving Repr, DecidableEq

/-- The message of an unreadable piece of data. -/
def CorruptFault.message : CorruptFault → String
  | note id reason => "note " ++ toString id ++ ": " ++ reason
  | fieldData id reason =>
    "note " ++ toString id ++ ": field data does not decode: " ++ reason
  | document reason => reason
  | timestamp text error => "bad timestamp '" ++ text ++ "': " ++ error.message
  | rating grade => "rating out of range: " ++ toString grade
  | status name => "unknown card status '" ++ name ++ "'"
  | sortIndex index => "negative sort field index " ++ toString index

/-- What can go wrong in a store. -/
inductive StoreError where
  | notFound (entity : Entity) (id : Int)
  | backend (fault : BackendFault)
  | corrupt (fault : CorruptFault)
  deriving Repr, DecidableEq

/-- The message of a store error. -/
def StoreError.message : StoreError → String
  | notFound entity id => entity.name ++ " not found: " ++ toString id
  | backend fault => "storage error: " ++ fault.message
  | corrupt fault => "corrupt stored data: " ++ fault.message

end Flashcard
