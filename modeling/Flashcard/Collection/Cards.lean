import Flashcard.Collection.Error

/-!
# Cards of a collection

- `findEmptyCards`, `deleteCards`: cards that nothing stands behind any more.
- `dueCards`, `deckStats`: what is to be studied.
- `answerCard`: a review. `updateCardFlags`: the marks that the user sets.
-/

namespace Flashcard

/-- Why a card counts as empty. -/
inductive EmptyReason where
  | clozeGone (ordinal : UInt32)
  | noContent
  deriving Repr, DecidableEq

/-- The message of a reason. -/
def EmptyReason.message : EmptyReason → String
  | clozeGone ordinal =>
    "Cloze deletion c" ++ toString ordinal.toNat ++ " no longer exists in note"
  | noContent => "Card has no content (both front and back are empty)"

/-- A card that nothing stands behind any more. -/
structure EmptyCard where
  card : Card
  reason : EmptyReason
  deriving DecidableEq

/-- What became of cards that were to be deleted. -/
structure DeletionReport where
  deleted : Nat := 0
  failed : List String := []
  deriving Repr, DecidableEq

/-- Numbers of cards; suspended cards only count in the total and as suspended. -/
structure DeckStats where
  deckId : Option DeckId := none
  totalCards : Nat := 0
  newCards : Nat := 0
  learningCards : Nat := 0
  reviewCards : Nat := 0
  relearningCards : Nat := 0
  suspendedCards : Nat := 0
  dueCards : Nat := 0
  deriving Repr, DecidableEq

/-- New values for the marks of a card; what is `none` stays. -/
structure CardFlagsUpdate where
  flag : Option UInt8 := none
  marked : Option Bool := none
  suspended : Option Bool := none
  deriving Repr, DecidableEq

namespace Collection

variable {σ : Type}

/-! ## Empty cards -/

/-- Why a card is empty, if it is: a cloze card whose number is not in the note, or any other card
whose sides are both blank. -/
def emptyReason? (nt : NoteType) (ordinals : List UInt32) (c : Card) : Option EmptyReason :=
  if ((nt.template? c.templateName).map (·.isCloze)).getD false then
    if ordinals.contains c.ordinal then none else some (.clozeGone c.ordinal)
  else if Text.allBlank c.front && Text.allBlank c.back then some .noContent
  else none

/-- The empty cards of a listed note; none, if the note or its cards cannot be read. -/
def emptyCardsOf (store : Store σ) (s : σ) (nt : NoteType) (entry : Except StoreError Note) :
    List EmptyCard :=
  match entry with
  | .error _ => []
  | .ok note =>
    match store.cardsOfNote note.id s with
    | .error _ => []
    | .ok cards =>
      cards.filterMap fun c => (emptyReason? nt (clozeOrdinals note.fields) c).map (⟨c, ·⟩)

/-- The empty cards of all notes of one type, or of all types. -/
def findEmptyCards (store : Store σ) (typeName : Option String) (s : σ) :
    Except CollectionError (List EmptyCard) := do
  let types ← match typeName with
    | some name => do pure [← loadNoteType store name s]
    | none => asked (store.noteTypes s)
  let found ← types.mapM fun nt => do
    let entries ← asked (store.notesOfType nt.name s)
    pure (entries.flatMap (emptyCardsOf store s nt))
  pure found.flatten

/-- Deletes one card and reports what became of it. -/
def deleteCard (store : Store σ) (report : DeletionReport) (id : CardId) (s : σ) :
    DeletionReport × σ :=
  match store.deleteCard id s with
  | .ok () after => ({ report with deleted := report.deleted + 1 }, after)
  | .error e after =>
    let failure := "card " ++ toString id ++ ": " ++ e.message
    ({ report with failed := report.failed ++ [failure] }, after)

/-- Deletes cards one by one; a failure does not stop the others. -/
def deleteCards (store : Store σ) (ids : List CardId) : Work σ DeletionReport := fun s =>
  let (report, s) := ids.foldl (fun (report, s) id => deleteCard store report id s) ({}, s)
  .ok report s

/-! ## Studying -/

/-- Refuses a deck that does not exist. -/
def checkDeck (store : Store σ) (deck : Option DeckId) (s : σ) : Except CollectionError Unit := do
  match deck with
  | none => pure ()
  | some id => if (← asked (store.deck? id s)).isNone then throw (.deckNotFound id)

/-- At most `limit` of the unsuspended cards that are due, the earliest first, in one deck or in
all. -/
def dueCards (store : Store σ) (deck : Option DeckId) (now : Timestamp) (limit : Nat) (s : σ) :
    Except CollectionError (List Card) := do
  checkDeck store deck s
  asked (store.dueCards deck now limit s)

/-- The numbers after one more card. -/
def DeckStats.count (now : Timestamp) (stats : DeckStats) (c : Card) : DeckStats :=
  let stats := { stats with totalCards := stats.totalCards + 1 }
  if c.suspended then { stats with suspendedCards := stats.suspendedCards + 1 }
  else
    let stats :=
      match c.scheduling.status with
      | .new => { stats with newCards := stats.newCards + 1 }
      | .learning => { stats with learningCards := stats.learningCards + 1 }
      | .review => { stats with reviewCards := stats.reviewCards + 1 }
      | .relearning => { stats with relearningCards := stats.relearningCards + 1 }
    if c.scheduling.isDue now then { stats with dueCards := stats.dueCards + 1 } else stats

/-- The numbers of cards in one deck or in all. -/
def deckStats (store : Store σ) (deck : Option DeckId) (now : Timestamp) (s : σ) :
    Except CollectionError DeckStats := do
  checkDeck store deck s
  let cards ← asked (store.cardsInDeck deck s)
  pure (cards.foldl (DeckStats.count now) { deckId := deck })

/-- The card of an id, which has to be there. -/
def loadCard (store : Store σ) (id : CardId) (s : σ) : Except CollectionError Card := do
  match ← asked (store.card? id s) with
  | some c => pure c
  | none => throw (.cardNotFound id)

/-- An answer to a card. -/
structure Answer where
  cardId : CardId
  rating : Rating
  now : Timestamp
  timeTakenMs : Option Nat := none

/-- Records an answer: the card's next state, and the review. -/
def answerCard (store : Store σ) (scheduler : Scheduler) (answer : Answer) : Work σ Review := do
  let card ← fun s => demand (loadCard store answer.cardId s) s
  match scheduler.answer? card.scheduling answer.rating answer.now with
  | none => throw .dueDateOutOfRange
  | some (next, review) =>
    let review := { review with timeTakenMs := answer.timeTakenMs }
    let usn ← ask store.nextUsn
    write (store.updateCard { card with scheduling := next, usn })
    write (store.addReview answer.cardId review)
    write (store.recordUsn usn)
    pure review

/-- The highest colour of a card. -/
def maxFlag : UInt8 := 7

/-- Refuses a colour that there is not. -/
def checkFlag (update : CardFlagsUpdate) : Except CollectionError Unit :=
  match update.flag with
  | none => .ok ()
  | some flag => if maxFlag < flag then .error (.invalidFlag flag) else .ok ()

/-- Sets marks of a card. -/
def updateCardFlags (store : Store σ) (id : CardId) (update : CardFlagsUpdate) : Work σ Card := do
  demand (checkFlag update)
  let card ← fun s => demand (loadCard store id s) s
  let usn ← ask store.nextUsn
  let card :=
    { card with
      flag := update.flag.getD card.flag
      marked := update.marked.getD card.marked
      suspended := update.suspended.getD card.suspended
      usn }
  write (store.updateCard card)
  write (store.recordUsn usn)
  pure card

end Collection

end Flashcard
