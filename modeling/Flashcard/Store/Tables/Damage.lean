import Flashcard.Store.Tables.Basic

/-!
# Damaged tables

Ways in which rows can come to hold what the store does not expect, for trials of what it does then.

- `Tables.Damage`: the ways. `Tables.damage`: the tables with some rows damaged, and how many.
- `Tables.damaged`: the tables after some damage.
-/

namespace Flashcard.Tables

/-- What is done to the rows of an id. -/
inductive Damage where
  /-- The field values are no document. -/
  | noteFields
  /-- The field values are a list. -/
  | noteFieldsArray
  | noteTags
  | noteCreated
  | noteModified
  /-- The update sequence number of a note is text. -/
  | noteUsn
  /-- The scheduling state has no members. -/
  | cardScheduling
  | cardFlag
  | cardOrdinal
  /-- The due time is missing, whatever the scheduling state says. -/
  | cardDue
  | reviewRating
  | reviewStatus
  | reviewTime
  /-- The layout has another version. -/
  | schemaVersion
  /-- The update sequence number is no number. -/
  | usnText
  /-- The field names of the note type at a position are no document. -/
  | noteTypeFields
  deriving Repr, DecidableEq

/-- Changes the row of an id, if there is one, and counts it. -/
def changeRow {κ α : Type} [Ord κ] [Std.TransOrd κ] (rows : SortedMap κ α) (id : κ) (f : α → α) :
    Nat × SortedMap κ α :=
  match rows.get? id with
  | none => (0, rows)
  | some row => (1, rows.insert id (f row))

/-- The tables with the row of a note changed. -/
def changeNote (t : Tables) (id : NoteId) (f : NoteRow → NoteRow) : Nat × Tables :=
  let (count, notes) := changeRow t.notes id f
  (count, { t with notes })

/-- The tables with the row of a card changed. -/
def changeCard (t : Tables) (id : CardId) (f : CardRow → CardRow) : Nat × Tables :=
  let (count, cards) := changeRow t.cards id f
  (count, { t with cards })

/-- The tables with the reviews of a card changed. -/
def changeReviews (t : Tables) (id : CardId) (f : ReviewRow → ReviewRow) : Nat × Tables :=
  ((t.reviews.filter (·.cardId == id)).length,
    { t with reviews := t.reviews.map fun row => if row.cardId = id then f row else row })

/-- The name of the note type in the row at a position. -/
def noteTypeAt? (t : Tables) (position : Int) : Option String :=
  (t.noteTypes.entries.find? (·.2.position == position)).map (·.1)

/-- The tables with some rows damaged, and how many these are. A number that would give two cards
one identity is refused. -/
def damage (t : Tables) (kind : Damage) (id : Int) : Except BackendFault (Nat × Tables) :=
  match kind with
  | .noteFields =>
    .ok (t.changeNote id fun row =>
      { row with fields := .spoiled "key must be a string at line 1 column 2" })
  | .noteFieldsArray =>
    .ok (t.changeNote id fun row =>
      { row with fields := .spoiled "invalid type: sequence, expected a map at line 1 column 0" })
  | .noteTags =>
    .ok (t.changeNote id fun row =>
      { row with tags := .spoiled "expected value at line 1 column 1" })
  | .noteCreated => .ok (t.changeNote id fun row => { row with createdAt := "yesterday" })
  | .noteModified => .ok (t.changeNote id fun row => { row with modifiedAt := "2024-01-01" })
  | .noteUsn => .ok (t.changeNote id fun row => { row with misfits := [(.usn, .text)] })
  | .cardScheduling =>
    .ok (t.changeCard id fun row =>
      { row with scheduling := .spoiled "missing field \x60status\x60 at line 1 column 2" })
  | .cardFlag => .ok (t.changeCard id fun row => { row with flag := 300 })
  | .cardOrdinal =>
    match t.cards.get? id with
    | none => .ok (0, t)
    | some row =>
      if t.hasTwin id row.noteId row.templateName (-1) then
        .error (.duplicate identityColumns)
      else .ok (t.changeCard id fun row => { row with ordinal := -1 })
  | .cardDue => .ok (t.changeCard id fun row => { row with due := none })
  | .reviewRating => .ok (t.changeReviews id fun row => { row with grade := 9 })
  | .reviewStatus => .ok (t.changeReviews id fun row => { row with statusBefore := "lost" })
  | .reviewTime => .ok (t.changeReviews id fun row => { row with reviewedAt := "" })
  | .schemaVersion => .ok (1, { t with schemaVersion := id })
  | .usnText => .ok (1, { t with usn := 0 })
  | .noteTypeFields =>
    match t.noteTypeAt? id with
    | none => .ok (0, t)
    | some name =>
      let (count, noteTypes) := changeRow t.noteTypes name fun row =>
        { row with fields := .spoiled "expected value at line 1 column 1" }
      .ok (count, { t with noteTypes })

/-- The tables after some damage. What is refused leaves them as they are. -/
def damaged (t : Tables) (kind : Damage) (id : Int) : Tables :=
  match t.damage kind id with
  | .ok (_, after) => after
  | .error _ => t

end Flashcard.Tables
