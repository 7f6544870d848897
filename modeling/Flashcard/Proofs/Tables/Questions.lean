import Flashcard.Proofs.Operation
import Flashcard.Proofs.Tables.Reading

/-!
# Questions to a collection

What an operation makes of what it sees depends on nothing else, so two stores that are seen alike
give the same plans and answers, and the same refusals.

- `SameLooks.planNewNote`, `SameLooks.planNoteChange`, `SameLooks.planEdit`,
  `SameLooks.regeneratorPlan`: the plans.
- `SameLooks.findEmptyCards`, `SameLooks.checkDuplicate`, `SameLooks.dueCards_eq`,
  `SameLooks.deckStats`: the questions.
-/

namespace Flashcard

namespace Tables

namespace SameLooks

open Collection

variable {t : Tables} {m : Memory} (h : SameLooks t m)

include h

/-- A note type loads alike, or is missing alike. -/
theorem loadNoteType (name : String) :
    loadNoteType Tables.store name t = loadNoteType Memory.store name m := by
  unfold Collection.loadNoteType
  rw [h.noteType?]

/-- Decks have the same names. -/
theorem deckNames : Tables.store.deckNames t = Memory.store.deckNames m := by
  unfold Store.deckNames
  rw [h.decks]

/-- The plan for a note's cards is the same plan. -/
theorem regeneratorPlan (r : Regenerator) (nt : NoteType) (note : Note) :
    r.plan Tables.store nt note t = r.plan Memory.store nt note m := by
  unfold Regenerator.plan
  rw [h.cardsOfNote, h.nextCardId]

/-- What is planned for a new note is the same. -/
theorem planNewNote (scheduler : Scheduler) (new : NewNote) :
    planNewNote Tables.store scheduler new t = planNewNote Memory.store scheduler new m := by
  unfold Collection.planNewNote
  rw [h.loadNoteType, h.deck?, h.nextUsn, h.nextNoteId, h.deckNames, h.nextCardId]

/-- What is planned for a change of a note is the same. -/
theorem planNoteChange (scheduler : Scheduler) (change : NoteChange) :
    planNoteChange Tables.store scheduler change t =
      planNoteChange Memory.store scheduler change m := by
  unfold Collection.planNoteChange
  simp only [h.note?, h.loadNoteType, h.nextUsn, h.deckNames, h.regeneratorPlan]

/-- An edit has the same edited type and the same rewritten notes. -/
theorem planEdit (typeName : String) (edit : NoteTypeEdit) :
    planEdit Tables.store typeName edit t = planEdit Memory.store typeName edit m := by
  unfold Collection.planEdit changedNotes
  rw [h.loadNoteType, h.nextUsn, h.notesOfType]

/-- A card loads alike, or is missing alike. -/
theorem loadCard (id : CardId) : loadCard Tables.store id t = loadCard Memory.store id m := by
  unfold Collection.loadCard
  rw [h.card?]

/-- A note has the same cards without content. -/
theorem emptyCardsOf (nt : NoteType) (entry : Except StoreError Note) :
    emptyCardsOf Tables.store t nt entry = emptyCardsOf Memory.store m nt entry := by
  unfold Collection.emptyCardsOf
  simp only [h.cardsOfNote]

/-- The same cards are found to be without content. -/
theorem findEmptyCards (typeName : Option String) :
    findEmptyCards Tables.store typeName t = findEmptyCards Memory.store typeName m := by
  have hcards : Collection.emptyCardsOf Tables.store t =
      Collection.emptyCardsOf Memory.store m := by
    funext nt entry
    exact h.emptyCardsOf nt entry
  unfold Collection.findEmptyCards
  simp only [h.loadNoteType, h.noteTypes, h.notesOfType, hcards]

/-- The same notes are found to share a value. -/
theorem checkDuplicate (typeName : String) (query : DuplicateQuery) :
    checkDuplicate Tables.store typeName query t =
      checkDuplicate Memory.store typeName query m := by
  have hdeck : noteInDeck Tables.store t = noteInDeck Memory.store m := by
    funext id deck
    unfold noteInDeck
    rw [h.cardsOfNote]
  unfold Collection.checkDuplicate
  rw [h.notesOfType, hdeck]

/-- A deck exists alike. -/
theorem checkDeck (deck : Option DeckId) :
    checkDeck Tables.store deck t = checkDeck Memory.store deck m := by
  unfold Collection.checkDeck
  simp only [h.deck?]

/-- The same cards are due, at a time that is counted in whole milliseconds. -/
theorem dueCards_eq (deck : Option DeckId) {now : Timestamp} (hnow : now.Counted) (limit : Nat) :
    Collection.dueCards Tables.store deck now limit t =
      Collection.dueCards Memory.store deck now limit m := by
  unfold Collection.dueCards
  rw [h.checkDeck, h.dueCards deck now limit hnow]

/-- Decks have the same tallies. -/
theorem deckStats (deck : Option DeckId) (now : Timestamp) :
    deckStats Tables.store deck now t = deckStats Memory.store deck now m := by
  unfold Collection.deckStats
  rw [h.checkDeck, h.cardsInDeck]

end SameLooks

end Tables

end Flashcard
