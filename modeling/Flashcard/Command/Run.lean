import Flashcard.Command.Basic
import Flashcard.Command.Input
import Flashcard.Command.Settings
import Flashcard.Document.Report

/-!
# Running commands

A command works on a store and gives the document that is shown to the user. What the user wrote is
checked before anything is looked up, but a deck that a command needs is made before the rest of it
can fail.

- `CommandContext`: what a command knows apart from its arguments.
- `Command.run`: the document of a command.
-/

namespace Flashcard

/-- What a command knows apart from its arguments. -/
structure CommandContext where
  /-- Where the collection is, as it is shown. -/
  path : String
  /-- The deck of new notes for which none is given. -/
  defaultDeck : String
  scheduler : Scheduler
  now : Timestamp
  /-- The texts of files. -/
  file? : String → Option String

namespace Command

variable {σ α : Type}

/-- A run of a command. -/
abbrev Run (σ : Type) (α : Type) := EStateM CommandError σ α

/-- Work on the collection as a part of a run. -/
def perform (work : Collection.Work σ α) : Run σ α := fun s =>
  match work s with
  | .ok a after => .ok a after
  | .error e after => .error (.work e) after

/-- A look at the collection as a part of a run. -/
def inspect (look : σ → Except CollectionError α) : Run σ α := fun s =>
  match look s with
  | .ok a => .ok a s
  | .error e => .error (.work e) s

/-- A look at the store as a part of a run. -/
def consult (query : Query σ α) : Run σ α := inspect fun s => Collection.asked (query s)

/-- A value that has to be there. -/
def found (e : CommandError) : Option α → Run σ α
  | none => throw e
  | some a => pure a

/-- A value that was read. -/
def input : Except CommandError α → Run σ α
  | .ok a => pure a
  | .error e => throw e

/-- The id of the deck of a name, which is made if it is not there. -/
def ensureDeck (store : Store σ) (name : String) : Run σ DeckId :=
  perform (Collection.write (store.ensureDeck name))

/-- The id of the deck of a name, if one is given; it has to be there. -/
def deckNamed (store : Store σ) : Option String → Run σ (Option DeckId)
  | none => pure none
  | some name => do
    match ← consult (store.deckNamed? name) with
    | some id => pure (some id)
    | none => throw (.deckNotFound name)

/-- The names of all note types. -/
def typeNames (store : Store σ) : Run σ Json := do
  pure (.ofStrings ((← consult store.noteTypes).map (·.name)))

/-- How the cards of a note type are made anew. -/
def regeneration (store : Store σ) (ctx : CommandContext) :
    Run σ Collection.RegenerationOptions := do
  pure { defaultDeck := ← ensureDeck store ctx.defaultDeck, now := ctx.now }

/-- A list of cards. -/
def showCards (cards : List Card) : Json := .arr (cards.map Card.toJson)

/-- What was done to the cards of a note. -/
def showPlan (plan : ReconcilePlan) : Json :=
  .obj [("note_id", .int plan.noteId), ("created", .ofInts (plan.toCreate.map (·.id))),
    ("updated", .ofInts (plan.toUpdate.map (·.id))), ("deleted", .ofInts plan.toDelete),
    ("unchanged", .ofInts plan.unchanged)]

/-- Makes the collection. -/
def runInit (store : Store σ) (ctx : CommandContext) : Run σ Json := do
  let deck ← perform (Collection.seed store ctx.defaultDeck)
  let types ← typeNames store
  pure (.obj [("db", .str ctx.path), ("default_deck", (Deck.mk deck ctx.defaultDeck).toJson),
    ("note_types", types)])

/-- Adds a note. -/
def runAddNote (store : Store σ) (ctx : CommandContext) (typeName : String)
    (deck : Option String) (fields tags : List String) : Run σ Json := do
  let fields ← input (readFields fields)
  let deck ← ensureDeck store (deck.getD ctx.defaultDeck)
  let new : Collection.NewNote := { typeName, deck, fields, tags, now := ctx.now }
  pure (← perform (Collection.addNote store ctx.scheduler new)).toJson

/-- Changes a note. -/
def runEditNote (store : Store σ) (ctx : CommandContext) (noteId : NoteId)
    (fields : List String) (tags : Option (List String)) : Run σ Json := do
  let fields ← input (readFields fields)
  let defaultDeck ← ensureDeck store ctx.defaultDeck
  let change : Collection.NoteChange := { noteId, fields, tags, defaultDeck, now := ctx.now }
  pure (showPlan (← perform (Collection.updateNote store ctx.scheduler change)))

/-- Edits a note type. -/
def runEditType (store : Store σ) (ctx : CommandContext) (name : String)
    (edit file : Option String) : Run σ Json := do
  let edit ← input (loadEdit ctx.file? edit file)
  let options ← regeneration store ctx
  pure (← perform (Collection.editNoteType store ctx.scheduler name edit options)).toJson

/-- Shows empty cards, and deletes them if that is wanted. -/
def runEmptyCards (store : Store σ) (typeName : Option String) (delete : Bool) : Run σ Json := do
  let empty ← inspect (Collection.findEmptyCards store typeName)
  let shown : Json := .arr (empty.map EmptyCard.toJson)
  if delete then
    let report ← perform (Collection.deleteCards store (empty.map (·.card.id)))
    pure (.obj [("found", shown), ("deletion", report.toJson)])
  else pure shown

/-- Answers a card. -/
def runAnswer (store : Store σ) (ctx : CommandContext) (cardId : CardId) (rating : String)
    (timeTakenMs : Option Nat) : Run σ Json := do
  let rating ← input (readRating rating)
  let answer : Collection.Answer := { cardId, rating, now := ctx.now, timeTakenMs }
  let review ← perform (Collection.answerCard store ctx.scheduler answer)
  let card ← consult (store.card? cardId)
  pure (.obj [("review", review.toJson),
    ("scheduling", .ofOption (fun c => c.scheduling.toJson) card)])

/-- The document of a command. -/
def run (store : Store σ) (ctx : CommandContext) : Command → Run σ Json
  | .init => runInit store ctx
  | .noteTypes => typeNames store
  | .noteType name => do
    pure (← found (.unknownNoteType name) (← consult (store.noteType? name))).toJson
  | .decks => do pure (.arr ((← consult store.decks).map Deck.toJson))
  | .addNote typeName deck fields tags => runAddNote store ctx typeName deck fields tags
  | .editNote note fields tags => runEditNote store ctx note fields tags
  | .editType name edit file => runEditType store ctx name edit file
  | .regenerate name => do
    let options ← regeneration store ctx
    pure (← perform (Collection.regenerate store ctx.scheduler name options)).toJson
  | .cards note => do
    let _ ← found (.noteNotFound note) (← consult (store.note? note))
    pure (showCards (← consult (store.cardsOfNote note)))
  | .duplicates typeName field value deck => do
    let deck ← deckNamed store deck
    let briefs ← inspect (Collection.checkDuplicate store typeName { field, value, deck })
    pure (.arr (briefs.map NoteBrief.toJson))
  | .emptyCards typeName delete => runEmptyCards store typeName delete
  | .answer card rating timeTakenMs => runAnswer store ctx card rating timeTakenMs
  | .due deck limit => do
    let deck ← deckNamed store deck
    pure (showCards (← inspect (Collection.dueCards store deck ctx.now limit)))
  | .deckStats deck => do
    let deck ← deckNamed store deck
    pure (← inspect (Collection.deckStats store deck ctx.now)).toJson
  | .reviews card => do
    pure (.arr ((← consult (store.reviews card)).map Review.toJson))
  | .flag card update => do
    pure (← perform (Collection.updateCardFlags store card update)).toJson

/-- Runs a command as the settings say. -/
def runWith (store : Store σ) (settings : Settings) (shownPath : String) (now : Timestamp)
    (file? : String → Option String) (command : Command) : Run σ Json :=
  match Sm2.named? settings.scheduler with
  | none => throw (.unknownScheduler settings.scheduler)
  | some sm2 =>
    let ctx : CommandContext := {
      path := shownPath, defaultDeck := settings.defaultDeck, scheduler := sm2, now, file? }
    command.run store ctx

end Command

end Flashcard
