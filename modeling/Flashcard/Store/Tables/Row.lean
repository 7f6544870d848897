import Flashcard.Json.Number
import Flashcard.Store.Error
import Flashcard.NoteType.Basic

/-!
# Rows

How notes, cards and reviews are held in table columns. Lists and records are documents in a text
column, times are text, and numbers are integers of 64 bits, so that a column can come to hold what
its reader does not take. What is read can also differ from what was written: doubles in a document
go through text, where some have no form, and a column of doubles has one zero only.

- `Cell`: a column that holds a document.
- `NoteTypeRow`, `NoteRow`, `CardRow`, `ReviewRow`: the rows, each with `of` to write and `decode`
  to read.
- `NoteRow.fetch`: what comes before reading a note.
- `readState`: what is read of a scheduling state that was written.
-/

namespace Flashcard.Tables

/-- A column that holds a document. -/
inductive Cell (α : Type) where
  | written (value : α)
  /-- Some other text, with what the reader says of it. -/
  | spoiled (reason : String)
  deriving DecidableEq

/-- The value of a document. -/
def Cell.read {α : Type} (fault : String → CorruptFault) : Cell α → Except StoreError α
  | written value => .ok value
  | spoiled reason => .error (.corrupt (fault reason))

/-- The time that a text column holds. -/
def readTime (text : String) : Except StoreError Timestamp :=
  match Timestamp.readExact text with
  | .ok t => .ok t
  | .error e => .error (.corrupt (.timestamp text e))

/-! ## Note types -/

/-- A row for a note type, whose key is the name. -/
structure NoteTypeRow where
  /-- The place of the row in the table. A row that replaces another comes after all rows. -/
  position : Int
  fields : Cell (List String)
  templates : Cell (List CardTemplate)
  sortIndex : Int
  fieldOptions : Cell (SortedMap String FieldOptions)
  deriving DecidableEq

namespace NoteTypeRow

/-- The row of a note type. The sort position wraps into the 64 bits with sign of its column. -/
def of (nt : NoteType) (position : Int) : NoteTypeRow where
  position := position
  fields := .written nt.fields
  templates := .written nt.templates
  sortIndex := Int.bmod nt.sortIndex 0x10000000000000000
  fieldOptions := .written nt.fieldOptions

/-- The note type of a row. -/
def decode (name : String) (row : NoteTypeRow) : Except StoreError NoteType := do
  let fields ← row.fields.read .document
  let templates ← row.templates.read .document
  if row.sortIndex < 0 then throw (.corrupt (.sortIndex row.sortIndex))
  let fieldOptions ← row.fieldOptions.read .document
  pure ⟨name, fields, templates, row.sortIndex.toNat, fieldOptions⟩

end NoteTypeRow

/-! ## Notes -/

/-- A row for a note, whose key is the id. -/
structure NoteRow where
  typeName : String
  fields : Cell FieldMap
  tags : Cell (List String)
  createdAt : String
  modifiedAt : String
  usn : Int
  /-- The columns that hold a value of a kind which they are not meant for, in their order. -/
  misfits : List (NoteColumn × StorageClass) := []
  deriving DecidableEq

namespace NoteRow

/-- The row of a note. -/
def of (note : Note) : NoteRow where
  typeName := note.typeName
  fields := .written note.fields
  tags := .written note.tags
  createdAt := note.createdAt.renderOffset
  modifiedAt := note.modifiedAt.renderOffset
  usn := note.usn

/-- The row, unless one of its columns holds a value of a kind that it is not meant for. -/
def fetch (row : NoteRow) : Except StoreError NoteRow :=
  match row.misfits with
  | [] => .ok row
  | (column, kind) :: _ => .error (.backend (.misfit column kind))

/-- The row after the note was changed, where the time of its creation stays. -/
def update (row : NoteRow) (note : Note) : NoteRow :=
  { NoteRow.of note with
    createdAt := row.createdAt
    misfits := row.misfits.filter (·.1 == .createdAt) }

/-- The note of a row that was fetched. -/
def decode (id : NoteId) (row : NoteRow) : Except StoreError Note := do
  let fields ← row.fields.read (.fieldData id)
  let tags ← row.tags.read .document
  let createdAt ← readTime row.createdAt
  let modifiedAt ← readTime row.modifiedAt
  pure ⟨id, row.typeName, fields, tags, createdAt, modifiedAt, row.usn⟩

end NoteRow

/-! ## Cards -/

/-- A row for a card, whose key is the id. -/
structure CardRow where
  noteId : NoteId
  deckId : DeckId
  templateName : String
  ordinal : Int
  front : String
  back : String
  scheduling : Cell SchedulingState
  flag : Int
  marked : Bool
  suspended : Bool
  usn : Int
  /-- The due date of the scheduling state, in whole milliseconds. -/
  due : Option Int
  deriving DecidableEq

/-- What is read of a double that has to be there, after the given part of its document. -/
def readDouble (before : String) (x : Float) : Except StoreError Float :=
  match Json.throughText? x with
  | some y => .ok y
  | none =>
    let column := (before ++ Json.renderFloat x).utf8ByteSize
    .error (.corrupt (.document
      ("invalid type: null, expected f64 at line 1 column " ++ toString column)))

/-- What is read of a scheduling state that was written. Doubles that may be missing are so if they
have no form in a document. -/
def readState (s : SchedulingState) : Except StoreError SchedulingState := do
  let start := "\x7b\"status\":\"" ++ s.status.name ++ "\",\"interval_days\":"
  let interval ← readDouble start s.intervalDays
  let start := start ++ Json.renderFloat s.intervalDays ++ ",\"ease_factor\":"
  let ease ← readDouble start s.easeFactor
  pure { s with
    intervalDays := interval
    easeFactor := ease
    stability := s.stability.bind Json.throughText?
    difficulty := s.difficulty.bind Json.throughText? }

namespace CardRow

/-- The row of a card. -/
def of (c : Card) : CardRow where
  noteId := c.noteId
  deckId := c.deckId
  templateName := c.templateName
  ordinal := c.ordinal.toNat
  front := c.front
  back := c.back
  scheduling := .written c.scheduling
  flag := c.flag.toNat
  marked := c.marked
  suspended := c.suspended
  usn := c.usn
  due := c.scheduling.dueDate.map Timestamp.millis

/-- Refuses a number that does not fit its column, which has the given position. -/
def checkRange (value limit : Int) (position : Nat) : Except StoreError Unit :=
  if 0 ≤ value ∧ value < limit then .ok () else .error (.backend (.outOfRange value position))

/-- Refuses rows with a number that does not fit its column. -/
def check (row : CardRow) : Except StoreError Unit := do
  checkRange row.ordinal 0x100000000 4
  checkRange row.flag 0x100 8

/-- The card of a row whose numbers fit. -/
def decode (id : CardId) (row : CardRow) : Except StoreError Card := do
  let scheduling ← readState (← row.scheduling.read .document)
  pure {
    id
    noteId := row.noteId
    deckId := row.deckId
    templateName := row.templateName
    ordinal := UInt32.ofNat row.ordinal.toNat
    front := row.front
    back := row.back
    scheduling
    flag := UInt8.ofNat row.flag.toNat
    marked := row.marked
    suspended := row.suspended
    usn := row.usn }

/-- The cards of rows. All numbers are checked before any document is read. -/
def decodeAll (rows : List (CardId × CardRow)) : Except StoreError (List Card) := do
  rows.forM fun row => row.2.check
  rows.mapM fun row => row.2.decode row.1

end CardRow

/-! ## Reviews -/

/-- A row for a review. -/
structure ReviewRow where
  cardId : CardId
  grade : Int
  reviewedAt : String
  statusBefore : String
  intervalBefore : Float
  intervalAfter : Float
  easeBefore : Float
  easeAfter : Float
  timeTakenMs : Option Nat
  deriving DecidableEq

/-- What a column of doubles keeps of a double: all but the sign of a zero. -/
def inColumn (x : Float) : Float := if x == 0.0 then 0.0 else x

namespace ReviewRow

/-- The first column of a review that would hold no value: what is not a number is written as
none. -/
def missing? (r : Review) : Option String :=
  let doubles := [("interval_before", r.intervalBefore), ("interval_after", r.intervalAfter),
    ("ease_before", r.easeBefore), ("ease_after", r.easeAfter)]
  (doubles.find? (·.2.isNaN)).map (·.1)

/-- The row of a review. -/
def of (cardId : CardId) (r : Review) : ReviewRow where
  cardId := cardId
  grade := r.rating.grade
  reviewedAt := r.reviewedAt.renderOffset
  statusBefore := r.statusBefore.name
  intervalBefore := inColumn r.intervalBefore
  intervalAfter := inColumn r.intervalAfter
  easeBefore := inColumn r.easeBefore
  easeAfter := inColumn r.easeAfter
  timeTakenMs := r.timeTakenMs

/-- A value that a row should give, or why it does not. -/
def demand {α : Type} (fault : CorruptFault) : Option α → Except StoreError α
  | none => .error (.corrupt fault)
  | some a => .ok a

/-- The review of a row. -/
def decode (row : ReviewRow) : Except StoreError Review := do
  let rating ← demand (.rating row.grade) (Rating.ofGrade? row.grade)
  let reviewedAt ← readTime row.reviewedAt
  let statusBefore ← demand (.status row.statusBefore) (CardStatus.ofName? row.statusBefore)
  pure {
    rating, reviewedAt, statusBefore
    intervalBefore := row.intervalBefore
    intervalAfter := row.intervalAfter
    easeBefore := row.easeBefore
    easeAfter := row.easeAfter
    timeTakenMs := row.timeTakenMs }

end ReviewRow

end Flashcard.Tables
