import Flashcard.Collection.Error

/-!
# Making cards anew

After a note type was edited, the cards of its notes are made anew, note by note. A note that fails
is reported and does not stop the others. The work can be cancelled between two notes, never within
one.

- `Regenerator.plan`: the plan for one note.
- `RegenerationReport`: what was done.
- `regenerate`: all notes of a type.
-/

namespace Flashcard

/-- A note that could not be worked on. -/
structure NoteFailure where
  /-- Missing when the stored note could not even be read. -/
  noteId : Option NoteId
  error : String
  deriving Repr, DecidableEq

/-- What was done for the notes of a type. -/
structure RegenerationReport where
  noteType : String
  notesTotal : Nat := 0
  notesSucceeded : Nat := 0
  notesFailed : Nat := 0
  cardsCreated : Nat := 0
  cardsUpdated : Nat := 0
  cardsDeleted : Nat := 0
  failures : List NoteFailure := []
  cancelled : Bool := false
  deriving Repr, DecidableEq

namespace RegenerationReport

/-- The report after a note whose plan was carried out. -/
def addPlan (r : RegenerationReport) (plan : ReconcilePlan) : RegenerationReport :=
  { r with
    notesSucceeded := r.notesSucceeded + 1
    cardsCreated := r.cardsCreated + plan.toCreate.length
    cardsUpdated := r.cardsUpdated + plan.toUpdate.length
    cardsDeleted := r.cardsDeleted + plan.toDelete.length }

/-- The report after a note that failed. -/
def addFailure (r : RegenerationReport) (noteId : Option NoteId) (error : String) :
    RegenerationReport :=
  { r with
    notesFailed := r.notesFailed + 1
    failures := r.failures ++ [⟨noteId, error⟩] }

end RegenerationReport

namespace Collection

variable {σ : Type}

/-- How far a batch has come. -/
structure Progress where
  /-- The notes worked on, whether they failed or not. -/
  notes : Nat := 0
  /-- The new cards planned, whether they were written or not. -/
  newCards : Nat := 0
  deriving Repr, DecidableEq

/-- Whether a batch that has come so far is asked to stop. -/
abbrev CancelSignal := Progress → Bool

/-- No one asks to stop. -/
def neverCancelled : CancelSignal := fun _ => false

/-- How a batch is run. -/
structure RegenerationOptions where
  /-- The deck of new cards of notes that have no cards to take the deck from. -/
  defaultDeck : DeckId
  now : Timestamp
  cancel : CancelSignal := neverCancelled

/-- What the notes of a batch have in common. -/
structure Regenerator where
  scheduler : Scheduler
  decks : SortedMap String DeckId
  defaultDeck : DeckId
  usn : Usn
  now : Timestamp

/-- The plan for the cards of one note. New cards go to the deck of the note's first card. -/
def Regenerator.plan (r : Regenerator) (store : Store σ) (nt : NoteType) (note : Note) (s : σ) :
    Except CollectionError ReconcilePlan := do
  let drafts ← (compile (.only nt) note.typeName note.fields).mapError .compile
  let existing ← asked (store.cardsOfNote note.id s)
  let nextId ← asked (store.nextCardId s)
  let ctx : ReconcileContext := {
    noteId := note.id
    defaultDeck := match existing with
      | [] => r.defaultDeck
      | card :: _ => card.deckId
    usn := r.usn
    now := r.now
    scheduler := r.scheduler
    decks := r.decks }
  pure (reconcile existing drafts nt ctx (.startingAt nextId)).1

/-- A batch part way through. -/
structure Batch where
  report : RegenerationReport
  progress : Progress := {}

/-- The batch after one listed note. -/
def Batch.step (b : Batch) (store : Store σ) (r : Regenerator) (nt : NoteType)
    (entry : Except StoreError Note) (s : σ) : Batch × σ :=
  let noted := b.progress.notes + 1
  match entry with
  | .error e =>
    (⟨b.report.addFailure none e.message, { b.progress with notes := noted }⟩, s)
  | .ok note =>
    match r.plan store nt note s with
    | .error e =>
      (⟨b.report.addFailure (some note.id) e.message, { b.progress with notes := noted }⟩, s)
    | .ok plan =>
      let progress : Progress := ⟨noted, b.progress.newCards + plan.toCreate.length⟩
      match store.applyPlan plan s with
      | .ok () after => (⟨b.report.addPlan plan, progress⟩, after)
      | .error e after => (⟨b.report.addFailure (some note.id) e.message, progress⟩, after)

/-- The batch after the listed notes, or after those before it was cancelled. -/
def Batch.run (b : Batch) (store : Store σ) (r : Regenerator) (nt : NoteType)
    (cancel : CancelSignal) : List (Except StoreError Note) → σ → Batch × σ
  | [], s => (b, s)
  | entry :: rest, s =>
    if cancel b.progress then ({ b with report := { b.report with cancelled := true } }, s)
    else
      let (b, s) := b.step store r nt entry s
      b.run store r nt cancel rest s

/-- Makes the cards of all notes of a type anew. It only fails when it cannot begin; what fails
later is in the report. -/
def regenerate (store : Store σ) (scheduler : Scheduler) (typeName : String)
    (options : RegenerationOptions) : Work σ RegenerationReport := fun s =>
  let begin : Except CollectionError _ := do
    let nt ← loadNoteType store typeName s
    let notes ← asked (store.notesOfType typeName s)
    let decks ← asked (store.deckNames s)
    let usn ← asked (store.nextUsn s)
    pure (nt, notes, ({
      scheduler, decks, usn
      defaultDeck := options.defaultDeck
      now := options.now } : Regenerator))
  match begin with
  | .error e => .error e s
  | .ok (nt, notes, r) =>
    let batch : Batch := ⟨{ noteType := typeName, notesTotal := notes.length }, {}⟩
    let (batch, s) := batch.run store r nt options.cancel notes s
    .ok batch.report s

end Collection

end Flashcard
