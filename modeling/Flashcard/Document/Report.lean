import Flashcard.Collection.Cards
import Flashcard.Collection.Notes
import Flashcard.Document.Card

/-!
# Plans and reports as documents

The JSON forms of what work on a collection gives.

- `ReconcilePlan`, `RegenerationReport`, `AddedNote`, `EmptyCard`, `DeletionReport`, `DeckStats`,
  `CardFlagsUpdate`: each with `toJson`, and with `ofJson?` where a document gives back all of it.
-/

namespace Flashcard

open Json (member?)

/-- A list of integers. -/
def Json.ofInts (ints : List Int) : Json := .arr (ints.map .int)

namespace ReconcilePlan

/-- The document of a plan. -/
def toJson (p : ReconcilePlan) : Json :=
  .obj [("note_id", .int p.noteId), ("usn", .int p.usn),
    ("to_create", .arr (p.toCreate.map Card.toJson)),
    ("to_update", .arr (p.toUpdate.map Card.toJson)), ("to_delete", .ofInts p.toDelete),
    ("unchanged", .ofInts p.unchanged)]

/-- The plan of a document. -/
def ofJson? (j : Json) : Option ReconcilePlan := do
  let r ← j.record? ["note_id", "usn", "to_create", "to_update", "to_delete", "unchanged"] 6
  pure {
    noteId := ← r.required "note_id" Json.int64?
    usn := ← r.required "usn" Json.int64?
    toCreate := ← r.required "to_create" (Json.list? Card.ofJson?)
    toUpdate := ← r.required "to_update" (Json.list? Card.ofJson?)
    toDelete := ← r.required "to_delete" (Json.list? Json.int64?)
    unchanged := ← r.required "unchanged" (Json.list? Json.int64?) }

end ReconcilePlan

namespace NoteFailure

/-- The document of a failure. -/
def toJson (f : NoteFailure) : Json :=
  .obj (member? "note_id" .int f.noteId ++ [("error", .str f.error)])

/-- The failure of a document. -/
def ofJson? (j : Json) : Option NoteFailure := do
  let r ← j.record? ["note_id", "error"] 2
  pure ⟨← r.optional "note_id" Json.int64?, ← r.required "error" Json.str?⟩

end NoteFailure

namespace RegenerationReport

/-- The document of a report. -/
def toJson (r : RegenerationReport) : Json :=
  .obj [("note_type", .str r.noteType), ("notes_total", .ofNat r.notesTotal),
    ("notes_succeeded", .ofNat r.notesSucceeded), ("notes_failed", .ofNat r.notesFailed),
    ("cards_created", .ofNat r.cardsCreated), ("cards_updated", .ofNat r.cardsUpdated),
    ("cards_deleted", .ofNat r.cardsDeleted),
    ("failures", .arr (r.failures.map NoteFailure.toJson)), ("cancelled", .bool r.cancelled)]

/-- The report of a document. -/
def ofJson? (j : Json) : Option RegenerationReport := do
  let r ← j.record?
    ["note_type", "notes_total", "notes_succeeded", "notes_failed", "cards_created",
      "cards_updated", "cards_deleted", "failures", "cancelled"] 9
  pure {
    noteType := ← r.required "note_type" Json.str?
    notesTotal := ← r.required "notes_total" Json.nat64?
    notesSucceeded := ← r.required "notes_succeeded" Json.nat64?
    notesFailed := ← r.required "notes_failed" Json.nat64?
    cardsCreated := ← r.required "cards_created" Json.nat64?
    cardsUpdated := ← r.required "cards_updated" Json.nat64?
    cardsDeleted := ← r.required "cards_deleted" Json.nat64?
    failures := ← r.required "failures" (Json.list? NoteFailure.ofJson?)
    cancelled := ← r.required "cancelled" Json.bool? }

end RegenerationReport

namespace AddedNote

/-- The document of a new note and its cards. -/
def toJson (a : AddedNote) : Json :=
  .obj [("note", a.note.toJson), ("cards", .arr (a.cards.map Card.toJson))]

/-- The new note and cards of a document. -/
def ofJson? (j : Json) : Option AddedNote := do
  let r ← j.record? ["note", "cards"] 2
  pure ⟨← r.required "note" Note.ofJson?, ← r.required "cards" (Json.list? Card.ofJson?)⟩

end AddedNote

/-- What a document says of an empty card. -/
structure EmptyCardEntry where
  cardId : CardId
  noteId : NoteId
  deckId : DeckId
  templateName : String
  ordinal : UInt32
  front : String
  back : String
  reason : String
  deriving Repr, DecidableEq

/-- What a document says of an empty card. -/
def EmptyCard.entry (e : EmptyCard) : EmptyCardEntry where
  cardId := e.card.id
  noteId := e.card.noteId
  deckId := e.card.deckId
  templateName := e.card.templateName
  ordinal := e.card.ordinal
  front := e.card.front
  back := e.card.back
  reason := e.reason.message

namespace EmptyCardEntry

/-- The document of an empty card. -/
def toJson (e : EmptyCardEntry) : Json :=
  .obj [("card_id", .int e.cardId), ("note_id", .int e.noteId), ("deck_id", .int e.deckId),
    ("template_name", .str e.templateName), ("ordinal", ordinalToJson e.ordinal),
    ("front", .str e.front), ("back", .str e.back), ("reason", .str e.reason)]

/-- The empty card of a document. -/
def ofJson? (j : Json) : Option EmptyCardEntry := do
  let r ← j.record?
    ["card_id", "note_id", "deck_id", "template_name", "ordinal", "front", "back", "reason"] 8
  pure {
    cardId := ← r.required "card_id" Json.int64?
    noteId := ← r.required "note_id" Json.int64?
    deckId := ← r.required "deck_id" Json.int64?
    templateName := ← r.required "template_name" Json.str?
    ordinal := ← r.required "ordinal" Json.uint32?
    front := ← r.required "front" Json.str?
    back := ← r.required "back" Json.str?
    reason := ← r.required "reason" Json.str? }

end EmptyCardEntry

/-- The document of an empty card. -/
def EmptyCard.toJson (e : EmptyCard) : Json := e.entry.toJson

namespace DeletionReport

/-- The document of a report. -/
def toJson (r : DeletionReport) : Json :=
  .obj (("deleted", .ofNat r.deleted) ::
    if r.failed.isEmpty then [] else [("failed", .ofStrings r.failed)])

/-- The report of a document. -/
def ofJson? (j : Json) : Option DeletionReport := do
  let r ← j.record? ["deleted", "failed"] 1
  pure ⟨← r.required "deleted" Json.nat64?, ← r.withDefault "failed" [] (Json.list? Json.str?)⟩

end DeletionReport

namespace DeckStats

/-- The document of numbers of cards. -/
def toJson (s : DeckStats) : Json :=
  .obj (member? "deck_id" .int s.deckId ++
    [("total_cards", .ofNat s.totalCards), ("new_cards", .ofNat s.newCards),
      ("learning_cards", .ofNat s.learningCards), ("review_cards", .ofNat s.reviewCards),
      ("relearning_cards", .ofNat s.relearningCards),
      ("suspended_cards", .ofNat s.suspendedCards), ("due_cards", .ofNat s.dueCards)])

/-- The numbers of cards of a document. -/
def ofJson? (j : Json) : Option DeckStats := do
  let r ← j.record?
    ["deck_id", "total_cards", "new_cards", "learning_cards", "review_cards", "relearning_cards",
      "suspended_cards", "due_cards"] 8
  pure {
    deckId := ← r.optional "deck_id" Json.int64?
    totalCards := ← r.required "total_cards" Json.nat64?
    newCards := ← r.required "new_cards" Json.nat64?
    learningCards := ← r.required "learning_cards" Json.nat64?
    reviewCards := ← r.required "review_cards" Json.nat64?
    relearningCards := ← r.required "relearning_cards" Json.nat64?
    suspendedCards := ← r.required "suspended_cards" Json.nat64?
    dueCards := ← r.required "due_cards" Json.nat64? }

end DeckStats

namespace CardFlagsUpdate

/-- The document of new marks. -/
def toJson (u : CardFlagsUpdate) : Json :=
  .obj (member? "flag" (fun flag => .ofNat flag.toNat) u.flag ++ member? "marked" .bool u.marked ++
    member? "suspended" .bool u.suspended)

/-- The new marks of a document. -/
def ofJson? (j : Json) : Option CardFlagsUpdate := do
  let r ← j.record? ["flag", "marked", "suspended"] 0
  pure ⟨← r.optional "flag" Json.uint8?, ← r.optional "marked" Json.bool?,
    ← r.optional "suspended" Json.bool?⟩

end CardFlagsUpdate

end Flashcard
