import Flashcard.Store.Basic
import Flashcard.Store.Tables.Row

/-!
# The store in tables

Everything is kept in tables with keys, and with references that have to hold: a card's note and
deck, and a review's card, are there. No two cards have one note, template and number, no two decks
have one name, and the doubles of a review are numbers. Ids and update sequence numbers have 64
bits. Compound updates are transactions.

- `Tables`: the states. `Tables.reopen`: opening an old collection.
- `Tables.store`: the operations.
-/

namespace Flashcard

open Tables in
/-- A collection kept in tables. -/
structure Tables where
  schemaVersion : Int := 1
  usn : Usn := 0
  decks : SortedMap DeckId String := .empty
  noteTypes : SortedMap String NoteTypeRow := .empty
  notes : SortedMap NoteId NoteRow := .empty
  cards : SortedMap CardId CardRow := .empty
  /-- The reviews, the oldest first. -/
  reviews : List ReviewRow := []
  deriving DecidableEq

namespace Tables

/-! ## Opening -/

/-- The newest layout of the tables that is understood. -/
def newestSchema : Int := 1

/-- Why a collection cannot be opened. -/
inductive OpenError where
  | newerSchema (version : Int)
  /-- The version does not fit 32 bits. -/
  | schemaOutOfRange (version : Int)
  deriving Repr, DecidableEq

/-- The message of a failure to open. -/
def OpenError.message : OpenError → String
  | newerSchema version =>
    "invalid data: database schema version " ++ toString version ++
      " is newer than supported version " ++ toString newestSchema
  | schemaOutOfRange version =>
    "sqlite error: " ++ (BackendFault.outOfRange version 0).message

/-- The version of the layout. -/
def version (t : Tables) : Except OpenError Int :=
  if -0x80000000 ≤ t.schemaVersion ∧ t.schemaVersion < 0x80000000 then .ok t.schemaVersion
  else .error (.schemaOutOfRange t.schemaVersion)

/-- Opens an old collection: it is as it was, unless its layout is newer than the one understood. -/
def reopen (t : Tables) : Except OpenError Tables := do
  let version ← t.version
  if newestSchema < version then throw (.newerSchema version)
  pure t

/-! ## Reading -/

/-- The note type of a name. -/
def noteType? (name : String) : Query Tables (Option NoteType) := fun t =>
  match t.noteTypes.get? name with
  | none => .ok none
  | some row => (row.decode name).map some

/-- All note types, by name. -/
def noteTypeList : Query Tables (List NoteType) := fun t =>
  t.noteTypes.entries.mapM fun row => row.2.decode row.1

/-- The note of an id. -/
def note? (id : NoteId) : Query Tables (Option Note) := fun t =>
  match t.notes.get? id with
  | none => .ok none
  | some row => do pure (some (← (← row.fetch).decode id))

/-- The notes of a type, by id. All rows are fetched before any note is read, so a row that cannot be
fetched is no entry of the list, but leaves none. -/
def notesOfType (typeName : String) : Query Tables (List (Except StoreError Note)) := fun t => do
  let rows ← (t.notes.entries.filter (·.2.typeName == typeName)).mapM fun row => do
    pure (row.1, ← row.2.fetch)
  pure (rows.map fun row => row.2.decode row.1)

/-- The card of an id. -/
def card? (id : CardId) : Query Tables (Option Card) := fun t => do
  pure (← CardRow.decodeAll (t.cards.entries.filter (·.1 == id))).head?

/-- The cards of a note, by id. -/
def cardsOfNote (id : NoteId) : Query Tables (List Card) := fun t =>
  CardRow.decodeAll (t.cards.entries.filter (·.2.noteId == id))

/-- Whether a row is for a card of a deck; without a deck all rows are. -/
def inDeck (deck : Option DeckId) (row : CardRow) : Bool :=
  match deck with
  | none => true
  | some id => row.deckId == id

/-- The cards of a deck, by id. -/
def cardsInDeck (deck : Option DeckId) : Query Tables (List Card) := fun t =>
  CardRow.decodeAll (t.cards.entries.filter fun row => inDeck deck row.2)

/-- Whether a row is for an unsuspended card with a due time of `now` or before, in milliseconds. -/
def isDue (now : Int) (row : CardRow) : Bool :=
  !row.suspended && match row.due with
    | none => false
    | some due => due ≤ now

/-- Whether one row has its due time no later than another; at one time the lower id comes first. -/
def dueBefore (a b : CardId × CardRow) : Bool :=
  let x := a.2.due.getD 0
  let y := b.2.due.getD 0
  x < y || (x == y && a.1 ≤ b.1)

/-- At most `limit` of the unsuspended due cards, the earliest first. Times count in whole
milliseconds. -/
def dueCards (deck : Option DeckId) (now : Timestamp) (limit : Nat) : Query Tables (List Card) :=
  fun t =>
    let due := t.cards.entries.filter fun row => inDeck deck row.2 && isDue now.millis row.2
    CardRow.decodeAll ((due.mergeSort dueBefore).take limit)

/-- The reviews of a card, the oldest first. -/
def reviewsOf (id : CardId) : Query Tables (List Review) := fun t =>
  (t.reviews.filter (·.cardId == id)).mapM (·.decode)

/-- The id after the highest of a table, or 1. -/
def unusedId {α : Type} (rows : SortedMap Int α) : Except StoreError Int :=
  let id := Store.nextId rows
  if id ≤ lastId then .ok id else .error (.backend .idsExhausted)

/-- The update sequence number after the highest one so far. -/
def unusedUsn : Query Tables Usn := fun t =>
  if t.usn < lastId then .ok (t.usn + 1) else .error (.backend .usnExhausted)

/-- All decks, by id. -/
def deckList : Query Tables (List Deck) := fun t =>
  .ok (t.decks.entries.map fun row => ⟨row.1, row.2⟩)

/-! ## Writing -/

/-- A failure that leaves the tables as they are. -/
def refuse {α : Type} (t : Tables) (e : StoreError) : EStateM.Result StoreError Tables α :=
  .error e t

/-- All or nothing: a failure leaves the tables as they were before. -/
def transaction {α : Type} (update : Update Tables α) : Update Tables α := fun t =>
  match update t with
  | .ok a after => .ok a after
  | .error e _ => .error e t

/-- Raises the update sequence number to at least the given one. -/
def raiseUsn (usn : Usn) : Update Tables Unit := fun t => .ok () { t with usn := max t.usn usn }

/-- Adds or replaces a note type. -/
def writeNoteType (nt : NoteType) : Update Tables Unit := fun t =>
  let positions := t.noteTypes.values.map (·.position)
  let row := NoteTypeRow.of nt ((positions.max?).getD 0 + 1)
  .ok () { t with noteTypes := t.noteTypes.insert nt.name row }

/-- Adds a note. -/
def insertNote (note : Note) : Update Tables Unit := fun t =>
  if t.notes.contains note.id then t.refuse (.backend (.duplicate "notes.id"))
  else .ok () { t with notes := t.notes.insert note.id (.of note) }

/-- Adds or replaces a note. -/
def replaceNote (note : Note) : Update Tables Unit := fun t =>
  .ok () { t with notes := t.notes.insert note.id (.of note) }

/-- Changes a note, whose time of creation stays. -/
def updateNote (note : Note) : Update Tables Unit := fun t =>
  match t.notes.get? note.id with
  | none => t.refuse (.notFound .note note.id)
  | some row => .ok () { t with notes := t.notes.insert note.id (row.update note) }

/-- Whether a card other than the one of this id has this note, template and number. -/
def hasTwin (t : Tables) (id : CardId) (noteId : NoteId) (templateName : String) (ordinal : Int) :
    Bool :=
  t.cards.entries.any fun row =>
    row.1 != id && row.2.noteId == noteId && row.2.templateName == templateName &&
      row.2.ordinal == ordinal

/-- The columns that tell the cards of a collection apart. -/
def identityColumns : String := "cards.note_id, cards.template_name, cards.ordinal"

/-- Adds a card. -/
def insertCard (c : Card) : Update Tables Unit := fun t =>
  if t.cards.contains c.id then t.refuse (.backend (.duplicate "cards.id"))
  else if t.hasTwin c.id c.noteId c.templateName c.ordinal.toNat then
    t.refuse (.backend (.duplicate identityColumns))
  else if !(t.notes.contains c.noteId && t.decks.contains c.deckId) then
    t.refuse (.backend .dangling)
  else .ok () { t with cards := t.cards.insert c.id (.of c) }

/-- Changes a card, whose note, template and number stay. -/
def updateCard (c : Card) : Update Tables Unit := fun t =>
  match t.cards.get? c.id with
  | none => t.refuse (.notFound .card c.id)
  | some row =>
    if !t.decks.contains c.deckId then t.refuse (.backend .dangling)
    else
      let row := { CardRow.of c with
        noteId := row.noteId, templateName := row.templateName, ordinal := row.ordinal }
      .ok () { t with cards := t.cards.insert c.id row }

/-- Removes a card and its reviews. -/
def deleteCard (id : CardId) : Update Tables Unit := fun t =>
  if t.cards.contains id then
    .ok () { t with
      cards := t.cards.erase id
      reviews := t.reviews.filter (·.cardId != id) }
  else t.refuse (.notFound .card id)

/-- Adds a review. -/
def insertReview (id : CardId) (r : Review) : Update Tables Unit := fun t =>
  match ReviewRow.missing? r with
  | some column => t.refuse (.backend (.missing ("revlog." ++ column)))
  | none =>
    if t.cards.contains id then .ok () { t with reviews := t.reviews ++ [.of id r] }
    else t.refuse (.backend .dangling)

/-- Adds a deck. -/
def insertDeck (name : String) : Update Tables Deck := fun t =>
  if t.decks.values.contains name then t.refuse (.backend (.duplicate "decks.name"))
  else
    let id := Store.nextId t.decks
    .ok ⟨id, name⟩ { t with decks := t.decks.insert id name }

/-- Carries out a plan, up to the first failure. -/
def writePlan (plan : ReconcilePlan) : Update Tables Unit :=
  Store.carryOut insertCard updateCard deleteCard raiseUsn plan

/-- The operations of the store in tables. -/
def store : Store Tables where
  noteType? := noteType?
  noteTypes := noteTypeList
  saveNoteType := writeNoteType
  note? := note?
  notesOfType := notesOfType
  createNote := insertNote
  updateNote := updateNote
  nextNoteId := fun t => unusedId t.notes
  card? := card?
  cardsOfNote := cardsOfNote
  cardsInDeck := cardsInDeck
  dueCards := dueCards
  createCard := insertCard
  updateCard := updateCard
  deleteCard := deleteCard
  nextCardId := fun t => unusedId t.cards
  addReview := insertReview
  reviews := reviewsOf
  deck? id := fun t => .ok ((t.decks.get? id).map fun name => ⟨id, name⟩)
  deckNamed? name := fun t => .ok ((t.decks.entries.find? (·.2 == name)).map (·.1))
  createDeck := insertDeck
  decks := deckList
  usn := fun t => .ok t.usn
  nextUsn := unusedUsn
  recordUsn := raiseUsn
  applyPlan plan := transaction (writePlan plan)
  applyNotePlan note plan := transaction do
    replaceNote note
    writePlan plan
    raiseUsn note.usn
  saveNoteTypeWithNotes nt notes := transaction do
    notes.forM fun note => do
      updateNote note
      raiseUsn note.usn
    writeNoteType nt

end Tables

end Flashcard
