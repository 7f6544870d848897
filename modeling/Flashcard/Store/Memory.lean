import Flashcard.Store.Basic

/-!
# The store in memory

Everything is kept in maps by id or name. Compound updates are checked as a whole before anything is
written. For trials, notes can be made to fail or to be unreadable. Ids and update sequence numbers go
on without end, so this is the store of collections whose numbers stay within 64 bits.

- `Memory`: the states.
- `Memory.store`: the operations.
- `Memory.failNote`, `Memory.spoilNote`: planted faults.
-/

namespace Flashcard

/-- A note as it is kept. -/
inductive StoredNote where
  | readable (note : Note)
  /-- Stands for a note whose data cannot be read any more. -/
  | unreadable (typeName reason : String)
  deriving DecidableEq

/-- A collection kept in maps. -/
structure Memory where
  noteTypes : SortedMap String NoteType := .empty
  notes : SortedMap NoteId StoredNote := .empty
  cards : SortedMap CardId Card := .empty
  decks : SortedMap DeckId Deck := .empty
  /-- All reviews with the ids of their cards, the oldest first. -/
  reviews : List (CardId × Review) := []
  usn : Usn := 0
  /-- The notes that were made to fail. -/
  failing : List NoteId := []
  deriving DecidableEq

namespace Memory

/-! ## Planted faults -/

/-- Makes every look at a note's cards and every change of the note or by its plans fail. -/
def failNote (m : Memory) (id : NoteId) : Memory := { m with failing := id :: m.failing }

/-- Puts an unreadable note in place. -/
def spoilNote (m : Memory) (id : NoteId) (typeName reason : String) : Memory :=
  { m with notes := m.notes.insert id (.unreadable typeName reason) }

/-- Refuses notes that were made to fail. -/
def checkNote (m : Memory) (id : NoteId) : Except StoreError Unit :=
  if id ∈ m.failing then .error (.backend (.injected id)) else .ok ()

/-! ## Reading -/

/-- The note that an entry holds, if it can be read. -/
def readNote (id : NoteId) : StoredNote → Except StoreError Note
  | .readable note => .ok note
  | .unreadable _ reason => .error (.corrupt (.note id reason))

/-- The type of a kept note. -/
def typeOf : StoredNote → String
  | .readable note => note.typeName
  | .unreadable typeName _ => typeName

/-- The note of an id. -/
def note? (id : NoteId) : Query Memory (Option Note) := fun m =>
  match m.notes.get? id with
  | none => .ok none
  | some stored => (readNote id stored).map some

/-- The notes of a type, by id. -/
def notesOfType (typeName : String) : Query Memory (List (Except StoreError Note)) := fun m =>
  .ok ((m.notes.entries.filter fun e => typeOf e.2 == typeName).map fun e => readNote e.1 e.2)

/-- The cards of a note, by id. -/
def cardsOfNote (id : NoteId) : Query Memory (List Card) := fun m => do
  m.checkNote id
  pure (m.cards.values.filter (·.noteId == id))

/-- Whether a card is in a deck; without a deck all cards are. -/
def inDeck (deck : Option DeckId) (c : Card) : Bool :=
  match deck with
  | none => true
  | some id => c.deckId == id

/-- The cards of a deck, by id. -/
def cardsInDeck (deck : Option DeckId) : Query Memory (List Card) := fun m =>
  .ok (m.cards.values.filter (inDeck deck))

/-- Whether one card is due no later than another; at one time the lower id comes first. -/
def dueBefore (a b : Card) : Bool :=
  match a.scheduling.dueDate, b.scheduling.dueDate with
  | none, none => a.id ≤ b.id
  | none, some _ => true
  | some _, none => false
  | some x, some y => if x = y then a.id ≤ b.id else x.isAtMost y

/-- At most `limit` of the unsuspended due cards, the earliest first. -/
def dueCards (deck : Option DeckId) (now : Timestamp) (limit : Nat) : Query Memory (List Card) :=
  fun m => do
    let due := (← cardsInDeck deck m).filter fun c => !c.suspended && c.scheduling.isDue now
    pure ((due.mergeSort dueBefore).take limit)

/-! ## Writing -/

/-- Writes a note, new or not. -/
def putNote (m : Memory) (note : Note) : Memory :=
  { m with notes := m.notes.insert note.id (.readable note) }

/-- Writes a card, new or not. -/
def putCard (m : Memory) (c : Card) : Memory := { m with cards := m.cards.insert c.id c }

/-- Removes a card and its reviews. -/
def dropCard (m : Memory) (id : CardId) : Memory :=
  { m with cards := m.cards.erase id, reviews := m.reviews.filter (·.1 ≠ id) }

/-- Raises the update sequence number to at least the given one. -/
def raiseUsn (m : Memory) (usn : Usn) : Memory := { m with usn := max m.usn usn }

/-- Turns a check and the state after it into an update. -/
def checked {α : Type} (m : Memory) (check : Except StoreError Unit) (a : α) (after : Memory) :
    EStateM.Result StoreError Memory α :=
  match check with
  | .ok () => .ok a after
  | .error e => .error e m

/-- Refuses notes that are not there, or were made to fail. -/
def checkStored (m : Memory) (id : NoteId) : Except StoreError Unit := do
  m.checkNote id
  if m.notes.contains id then pure () else throw (.notFound .note id)

/-- Refuses cards that are not there. -/
def checkCard (m : Memory) (id : CardId) : Except StoreError Unit :=
  if m.cards.contains id then .ok () else .error (.notFound .card id)

/-- Refuses plans that change or delete cards which are not there. -/
def checkPlan (m : Memory) (plan : ReconcilePlan) : Except StoreError Unit := do
  m.checkNote plan.noteId
  plan.toUpdate.forM fun c => m.checkCard c.id
  plan.toDelete.forM m.checkCard

/-- Carries out a plan. -/
def writePlan (m : Memory) (plan : ReconcilePlan) : Memory :=
  let written := (plan.toCreate ++ plan.toUpdate).foldl putCard m
  let left := plan.toDelete.foldl dropCard written
  if plan.isNoop then left else left.raiseUsn plan.usn

/-- Adds a note. -/
def createNote (note : Note) : Update Memory Unit := fun m =>
  m.checked (m.checkNote note.id) () (m.putNote note)

/-- Changes a note. -/
def updateNote (note : Note) : Update Memory Unit := fun m =>
  m.checked (m.checkStored note.id) () (m.putNote note)

/-- Changes a card. -/
def updateCard (c : Card) : Update Memory Unit := fun m =>
  m.checked (m.checkCard c.id) () (m.putCard c)

/-- Removes a card and its reviews. -/
def deleteCard (id : CardId) : Update Memory Unit := fun m =>
  m.checked (m.checkCard id) () (m.dropCard id)

/-- Adds a deck. -/
def createDeck (name : String) : Update Memory Deck := fun m =>
  let deck : Deck := ⟨Store.nextId m.decks, name⟩
  .ok deck { m with decks := m.decks.insert deck.id deck }

/-- Writes a note and carries out the plan for its cards. -/
def applyNotePlan (note : Note) (plan : ReconcilePlan) : Update Memory Unit := fun m =>
  m.checked (do m.checkNote note.id; m.checkPlan plan) ()
    (((m.putNote note).writePlan plan).raiseUsn note.usn)

/-- Adds or replaces a note type. -/
def putNoteType (m : Memory) (nt : NoteType) : Memory :=
  { m with noteTypes := m.noteTypes.insert nt.name nt }

/-- Saves a note type and changed notes of it. -/
def saveNoteTypeWithNotes (nt : NoteType) (notes : List Note) : Update Memory Unit := fun m =>
  m.checked (notes.forM fun note => m.checkStored note.id) ()
    ((notes.foldl (fun m note => (m.putNote note).raiseUsn note.usn) m).putNoteType nt)

/-- The operations of the store in memory. -/
def store : Store Memory where
  noteType? name := fun m => .ok (m.noteTypes.get? name)
  noteTypes := fun m => .ok m.noteTypes.values
  saveNoteType nt := fun m => .ok () (m.putNoteType nt)
  note? := note?
  notesOfType := notesOfType
  createNote := createNote
  updateNote := updateNote
  nextNoteId := fun m => .ok (Store.nextId m.notes)
  card? id := fun m => .ok (m.cards.get? id)
  cardsOfNote := cardsOfNote
  cardsInDeck := cardsInDeck
  dueCards := dueCards
  createCard c := fun m => .ok () (m.putCard c)
  updateCard := updateCard
  deleteCard := deleteCard
  nextCardId := fun m => .ok (Store.nextId m.cards)
  addReview id review := fun m => .ok () { m with reviews := m.reviews ++ [(id, review)] }
  reviews id := fun m => .ok ((m.reviews.filter (·.1 == id)).map (·.2))
  deck? id := fun m => .ok (m.decks.get? id)
  deckNamed? name := fun m => .ok ((m.decks.values.find? (·.name == name)).map (·.id))
  createDeck := createDeck
  decks := fun m => .ok m.decks.values
  usn := fun m => .ok m.usn
  nextUsn := fun m => .ok (m.usn + 1)
  recordUsn usn := fun m => .ok () (m.raiseUsn usn)
  applyPlan plan := fun m => m.checked (m.checkPlan plan) () (m.writePlan plan)
  applyNotePlan := applyNotePlan
  saveNoteTypeWithNotes := saveNoteTypeWithNotes

end Memory

end Flashcard
