import Flashcard.Collection.Regeneration
import Flashcard.Duplicate
import Flashcard.NoteType.Stock

/-!
# Notes and note types of a collection

- `seed`: the stock note types and a deck.
- `addNote`, `updateNote`: notes, with their cards.
- `editNoteType`: a note type, with its notes and their cards.
- `checkDuplicate`: notes with the same value in a field.
-/

namespace Flashcard

/-- A new note and its cards. -/
structure AddedNote where
  note : Note
  cards : List Card
  deriving DecidableEq

namespace Collection

variable {σ : Type}

/-- Saves a stock note type, unless there is one of its name. -/
def seedNoteType (store : Store σ) (nt : NoteType) : Work σ Unit := do
  match ← ask (store.noteType? nt.name) with
  | some _ => pure ()
  | none => write (store.saveNoteType nt)

/-- Saves the stock note types that are missing, and makes sure that a deck exists. -/
def seed (store : Store σ) (deckName : String) : Work σ DeckId := do
  NoteType.stock.forM (seedNoteType store)
  write (store.ensureDeck deckName)

/-- The parts of a new note. -/
structure NewNote where
  typeName : String
  deck : DeckId
  fields : FieldMap
  tags : List String
  now : Timestamp

/-- Plans a new note: one new card for each draft. -/
def planNewNote (store : Store σ) (scheduler : Scheduler) (new : NewNote) (s : σ) :
    Except CollectionError (Note × ReconcilePlan) := do
  let nt ← loadNoteType store new.typeName s
  if (← asked (store.deck? new.deck s)).isNone then throw (.deckNotFound new.deck)
  let usn ← asked (store.nextUsn s)
  let id ← asked (store.nextNoteId s)
  let note : Note := {
    id, usn
    typeName := new.typeName
    fields := new.fields
    tags := new.tags
    createdAt := new.now
    modifiedAt := new.now }
  let drafts ← (compile (.only nt) note.typeName note.fields).mapError .compile
  let decks ← asked (store.deckNames s)
  let nextId ← asked (store.nextCardId s)
  let ctx : ReconcileContext := {
    noteId := id, defaultDeck := new.deck, now := new.now, usn, scheduler, decks }
  pure (note, (reconcile [] drafts nt ctx (.startingAt nextId)).1)

/-- Adds a note and its cards. -/
def addNote (store : Store σ) (scheduler : Scheduler) (new : NewNote) : Work σ AddedNote := do
  let (note, plan) ← fun s => demand (planNewNote store scheduler new s) s
  write (store.applyNotePlan note plan)
  pure ⟨note, plan.toCreate⟩

/-- A change of a note. -/
structure NoteChange where
  noteId : NoteId
  /-- The new values; fields that are not named stay. -/
  fields : FieldMap
  tags : Option (List String)
  defaultDeck : DeckId
  now : Timestamp

/-- Plans a change of a note: cards whose identity stays keep their scheduling. -/
def planNoteChange (store : Store σ) (scheduler : Scheduler) (change : NoteChange) (s : σ) :
    Except CollectionError (Note × ReconcilePlan) := do
  let old ← match ← asked (store.note? change.noteId s) with
    | some note => pure note
    | none => throw (.noteNotFound change.noteId)
  let nt ← loadNoteType store old.typeName s
  let usn ← asked (store.nextUsn s)
  let note : Note :=
    { old with
      fields := old.fields.merge change.fields
      tags := change.tags.getD old.tags
      modifiedAt := change.now
      usn }
  let decks ← asked (store.deckNames s)
  let r : Regenerator := {
    scheduler, decks, usn
    defaultDeck := change.defaultDeck
    now := change.now }
  let plan ← r.plan store nt note s
  pure (note, plan)

/-- Changes a note, and fits its cards to it. -/
def updateNote (store : Store σ) (scheduler : Scheduler) (change : NoteChange) :
    Work σ ReconcilePlan := do
  let (note, plan) ← fun s => demand (planNoteChange store scheduler change s) s
  write (store.applyNotePlan note plan)
  pure plan

/-! ## Editing note types -/

/-- What an edit does to the field values of notes, if it does anything. -/
def fieldChange? : NoteTypeEdit → Option (FieldMap → FieldMap)
  | .renameField oldName newName => some fun fields =>
    match fields.get? oldName with
    | none => fields
    | some value => (fields.erase oldName).insert newName value
  | .removeField name => some fun fields => fields.erase name
  | _ => none

/-- The readable notes of a type with their field values changed. -/
def changedNotes (store : Store σ) (typeName : String) (change : FieldMap → FieldMap) (s : σ) :
    Except CollectionError (List Note) := do
  let usn ← asked (store.nextUsn s)
  let entries ← asked (store.notesOfType typeName s)
  let notes := entries.filterMap fun entry => entry.toOption
  pure (notes.map fun note => { note with fields := change note.fields, usn })

/-- Plans an edit of a note type: the edited type and the notes that it changes. -/
def planEdit (store : Store σ) (typeName : String) (edit : NoteTypeEdit) (s : σ) :
    Except CollectionError (NoteType × List Note) := do
  let nt ← loadNoteType store typeName s
  let edited ← (nt.edit edit).mapError .edit
  let notes ← match fieldChange? edit with
    | none => pure []
    | some change => changedNotes store typeName change s
  pure (edited, notes)

/-- Edits a note type, carries renamed and removed fields into its notes, and makes the cards anew
where the edit can change them. -/
def editNoteType (store : Store σ) (scheduler : Scheduler) (typeName : String) (edit : NoteTypeEdit)
    (options : RegenerationOptions) : Work σ RegenerationReport := do
  let (edited, notes) ← fun s => demand (planEdit store typeName edit s) s
  write (store.saveNoteTypeWithNotes edited notes)
  if edit.affectsCards then regenerate store scheduler typeName options
  else pure { noteType := typeName }

/-! ## Duplicates -/

/-- Whether a note has a card in a deck; not, if its cards cannot be read. -/
def noteInDeck (store : Store σ) (s : σ) (noteId : NoteId) (deck : DeckId) : Bool :=
  match store.cardsOfNote noteId s with
  | .ok cards => cards.any (·.deckId == deck)
  | .error _ => false

/-- The readable notes of a type that have the wanted value in a field. -/
def checkDuplicate (store : Store σ) (typeName : String) (query : DuplicateQuery) (s : σ) :
    Except CollectionError (List NoteBrief) := do
  let entries ← asked (store.notesOfType typeName s)
  let notes := entries.filterMap fun entry => entry.toOption
  pure (findDuplicates notes query (noteInDeck store s))

end Collection

end Flashcard
