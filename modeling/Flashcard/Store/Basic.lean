import Flashcard.NoteType.Basic
import Flashcard.Reconcile
import Flashcard.Store.Error

/-!
# Stores

A collection is kept in a store. Its state is a value; reading takes a state, and an update takes a
state to the next one. An update that fails still has a next state, which need not be the one that
it began with.

- `Store σ`: the operations of a store whose states are of type `σ`.
- `Store.deckNames`, `Store.ensureDeck`: what follows from them.
- `Store.piecewise`: the same store, with its compound updates carried out piece by piece.
-/

namespace Flashcard

/-- A change of a store's state that may fail. -/
abbrev Update (σ : Type) (α : Type) := EStateM StoreError σ α

/-- A look at a store's state that may fail. -/
abbrev Query (σ : Type) (α : Type) := σ → Except StoreError α

/-- The operations of a store whose states are of type `σ`. -/
structure Store (σ : Type) where
  noteType? : String → Query σ (Option NoteType)
  /-- All note types, by name. -/
  noteTypes : Query σ (List NoteType)
  /-- Adds a note type, or replaces the one of its name. -/
  saveNoteType : NoteType → Update σ Unit
  note? : NoteId → Query σ (Option Note)
  /-- The notes of a type, by id. A note that was found but cannot be read is an error in its
  place. -/
  notesOfType : String → Query σ (List (Except StoreError Note))
  createNote : Note → Update σ Unit
  updateNote : Note → Update σ Unit
  nextNoteId : Query σ NoteId
  card? : CardId → Query σ (Option Card)
  /-- The cards of a note, by id. -/
  cardsOfNote : NoteId → Query σ (List Card)
  /-- The cards of a deck, or all cards, by id. -/
  cardsInDeck : Option DeckId → Query σ (List Card)
  /-- At most a number of the unsuspended cards that are due, the earliest first. -/
  dueCards : Option DeckId → Timestamp → (limit : Nat) → Query σ (List Card)
  createCard : Card → Update σ Unit
  updateCard : Card → Update σ Unit
  /-- Removes a card and its reviews. -/
  deleteCard : CardId → Update σ Unit
  nextCardId : Query σ CardId
  addReview : CardId → Review → Update σ Unit
  /-- The reviews of a card, the oldest first. -/
  reviews : CardId → Query σ (List Review)
  deck? : DeckId → Query σ (Option Deck)
  deckNamed? : String → Query σ (Option DeckId)
  createDeck : String → Update σ Deck
  /-- All decks, by id. -/
  decks : Query σ (List Deck)
  /-- The highest update sequence number so far. -/
  usn : Query σ Usn
  /-- The number that marks the next change. -/
  nextUsn : Query σ Usn
  /-- Raises the update sequence number to at least the given one. -/
  recordUsn : Usn → Update σ Unit
  /-- Carries out the plan for a note's cards. -/
  applyPlan : ReconcilePlan → Update σ Unit
  /-- Writes a new or changed note, and carries out the plan for its cards. -/
  applyNotePlan : Note → ReconcilePlan → Update σ Unit
  /-- Saves a note type, and changed notes of it. -/
  saveNoteTypeWithNotes : NoteType → List Note → Update σ Unit

namespace Store

variable {σ : Type}

/-- Makes a look at the state a step that leaves the state as it is. -/
def look {α : Type} (query : Query σ α) : Update σ α := fun s =>
  match query s with
  | .ok a => .ok a s
  | .error e => .error e s

/-- The id after the highest of a map, or 1. -/
def nextId {α : Type} (entries : SortedMap Int α) : Int :=
  match entries.lastKey? with
  | none => 1
  | some id => id + 1

/-- Deck ids by name; of two decks of one name the one of higher id counts. -/
def deckNames (store : Store σ) : Query σ (SortedMap String DeckId) := fun s => do
  pure (SortedMap.ofList ((← store.decks s).map fun deck => (deck.name, deck.id)))

/-- The id of the deck of a name, which is made if it is not there. -/
def ensureDeck (store : Store σ) (name : String) : Update σ DeckId := do
  match ← look (store.deckNamed? name) with
  | some id => pure id
  | none => pure (← store.createDeck name).id

/-! ## Piece by piece -/

/-- Carries out a plan with the given steps, up to the first failure: new cards, then changes, then
deletions, and the mark of the plan if it writes anything. -/
def carryOut (create update : Card → Update σ Unit) (delete : CardId → Update σ Unit)
    (record : Usn → Update σ Unit) (plan : ReconcilePlan) : Update σ Unit := do
  plan.toCreate.forM create
  plan.toUpdate.forM update
  plan.toDelete.forM delete
  if plan.isNoop then pure () else record plan.usn

/-- Carries out a plan card by card, up to the first failure. -/
def applyPlanPiecewise (store : Store σ) (plan : ReconcilePlan) : Update σ Unit :=
  carryOut store.createCard store.updateCard store.deleteCard store.recordUsn plan

/-- Writes a note, then carries out a plan card by card, up to the first failure. -/
def applyNotePlanPiecewise (store : Store σ) (note : Note) (plan : ReconcilePlan) :
    Update σ Unit := do
  match ← look (store.note? note.id) with
  | some _ => store.updateNote note
  | none => store.createNote note
  store.applyPlanPiecewise plan
  store.recordUsn note.usn

/-- The highest mark of some notes. -/
def highestUsn? (notes : List Note) : Option Usn := (notes.map (·.usn)).max?

/-- Writes notes one by one, then a note type, up to the first failure. -/
def saveNoteTypeWithNotesPiecewise (store : Store σ) (nt : NoteType) (notes : List Note) :
    Update σ Unit := do
  notes.forM store.updateNote
  store.saveNoteType nt
  match highestUsn? notes with
  | none => pure ()
  | some usn => store.recordUsn usn

/-- The same store, with its three compound updates carried out piece by piece, so that a failure
can leave some pieces written. -/
def piecewise (store : Store σ) : Store σ :=
  { store with
    applyPlan := store.applyPlanPiecewise
    applyNotePlan := store.applyNotePlanPiecewise
    saveNoteTypeWithNotes := store.saveNoteTypeWithNotesPiecewise }

end Store

end Flashcard
