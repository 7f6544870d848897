import Flashcard.Card
import Flashcard.Document.NoteType
import Flashcard.Time.Rfc3339

/-!
# Notes and cards as documents

The JSON forms of notes, cards, scheduling states, reviews and decks.

- `Note`, `NoteBrief`, `CardIdentity`, `CardDraft`, `SchedulingState`, `Card`, `Review`, `Deck`,
  `IdSequence`: each with `toJson` and `ofJson?`.
-/

namespace Flashcard

open Json (member?)

/-- The document of an instant. -/
def Timestamp.toJson (t : Timestamp) : Json := .str t.render

/-- The instant of a document. -/
def Timestamp.ofJson? (j : Json) : Option Timestamp := j.str?.bind Timestamp.read?

/-- The document of field values. -/
def FieldMap.toJson (fields : FieldMap) : Json := .ofMap .str fields

/-- The field values of a document. -/
def FieldMap.ofJson? : Json → Option FieldMap := Json.map? Json.str?

namespace Note

/-- The document of a note. -/
def toJson (n : Note) : Json :=
  .obj [("id", .int n.id), ("type_name", .str n.typeName), ("field_map", n.fields.toJson),
    ("tags", .ofStrings n.tags), ("created_at", n.createdAt.toJson),
    ("modified_at", n.modifiedAt.toJson), ("usn", .int n.usn)]

/-- The note of a document. -/
def ofJson? (j : Json) : Option Note := do
  let r ← j.record? ["id", "type_name", "field_map", "tags", "created_at", "modified_at", "usn"] 7
  pure {
    id := ← r.required "id" Json.int64?
    typeName := ← r.required "type_name" Json.str?
    fields := ← r.required "field_map" FieldMap.ofJson?
    tags := ← r.withDefault "tags" [] (Json.list? Json.str?)
    createdAt := ← r.required "created_at" Timestamp.ofJson?
    modifiedAt := ← r.required "modified_at" Timestamp.ofJson?
    usn := ← r.required "usn" Json.int64? }

end Note

namespace NoteBrief

/-- The document of a note's short form. -/
def toJson (n : NoteBrief) : Json :=
  .obj [("id", .int n.id), ("type_name", .str n.typeName), ("field_map", n.fields.toJson)]

/-- The short form of a note that a document holds. -/
def ofJson? (j : Json) : Option NoteBrief := do
  let r ← j.record? ["id", "type_name", "field_map"] 3
  pure ⟨← r.required "id" Json.int64?, ← r.required "type_name" Json.str?,
    ← r.required "field_map" FieldMap.ofJson?⟩

end NoteBrief

/-- The document of a card number. -/
def ordinalToJson (ordinal : UInt32) : Json := .ofNat ordinal.toNat

namespace CardIdentity

/-- The document of an identity. -/
def toJson (i : CardIdentity) : Json :=
  .obj [("template_name", .str i.templateName), ("ordinal", ordinalToJson i.ordinal)]

/-- The identity of a document. -/
def ofJson? (j : Json) : Option CardIdentity := do
  let r ← j.record? ["template_name", "ordinal"] 2
  pure ⟨← r.required "template_name" Json.str?, ← r.required "ordinal" Json.uint32?⟩

end CardIdentity

namespace CardDraft

/-- The document of a draft. -/
def toJson (d : CardDraft) : Json :=
  .obj [("template_name", .str d.templateName), ("ordinal", ordinalToJson d.ordinal),
    ("front", .str d.front), ("back", .str d.back)]

/-- The draft of a document. -/
def ofJson? (j : Json) : Option CardDraft := do
  let r ← j.record? ["template_name", "ordinal", "front", "back"] 4
  pure ⟨← r.required "template_name" Json.str?, ← r.required "ordinal" Json.uint32?,
    ← r.required "front" Json.str?, ← r.required "back" Json.str?⟩

end CardDraft

/-- The document of a status. -/
def CardStatus.toJson (s : CardStatus) : Json := .str s.name

/-- The status of a document. -/
def CardStatus.ofJson? (j : Json) : Option CardStatus := j.choice?.bind CardStatus.ofName?

/-- The document of a rating. -/
def Rating.toJson (r : Rating) : Json := .str r.name

/-- The rating of a document. -/
def Rating.ofJson? (j : Json) : Option Rating := j.choice?.bind Rating.ofName?

namespace SchedulingState

/-- The document of a scheduling state. -/
def toJson (s : SchedulingState) : Json :=
  .obj ([("status", s.status.toJson), ("interval_days", .float s.intervalDays),
      ("ease_factor", .float s.easeFactor)] ++
    member? "stability" .float s.stability ++ member? "difficulty" .float s.difficulty ++
    [("lapses", .ofNat s.lapses), ("reviews_count", .ofNat s.reviewsCount)] ++
    member? "due_date" Timestamp.toJson s.dueDate)

/-- The scheduling state of a document. -/
def ofJson? (j : Json) : Option SchedulingState := do
  let r ← j.record?
    ["status", "interval_days", "ease_factor", "stability", "difficulty", "lapses",
      "reviews_count", "due_date"] 8
  pure {
    status := ← r.required "status" CardStatus.ofJson?
    intervalDays := ← r.required "interval_days" Json.float?
    easeFactor := ← r.required "ease_factor" Json.float?
    stability := ← r.optional "stability" Json.float?
    difficulty := ← r.optional "difficulty" Json.float?
    lapses := ← r.required "lapses" Json.nat32?
    reviewsCount := ← r.required "reviews_count" Json.nat32?
    dueDate := ← r.optional "due_date" Timestamp.ofJson? }

end SchedulingState

namespace Card

/-- The document of a card. -/
def toJson (c : Card) : Json :=
  .obj [("id", .int c.id), ("note_id", .int c.noteId), ("deck_id", .int c.deckId),
    ("template_name", .str c.templateName), ("ordinal", ordinalToJson c.ordinal),
    ("front", .str c.front), ("back", .str c.back), ("scheduling", c.scheduling.toJson),
    ("flag", .ofNat c.flag.toNat), ("marked", .bool c.marked), ("suspended", .bool c.suspended),
    ("usn", .int c.usn)]

/-- The card of a document. -/
def ofJson? (j : Json) : Option Card := do
  let r ← j.record?
    ["id", "note_id", "deck_id", "template_name", "ordinal", "front", "back", "scheduling", "flag",
      "marked", "suspended", "usn"] 12
  pure {
    id := ← r.required "id" Json.int64?
    noteId := ← r.required "note_id" Json.int64?
    deckId := ← r.required "deck_id" Json.int64?
    templateName := ← r.required "template_name" Json.str?
    ordinal := ← r.required "ordinal" Json.uint32?
    front := ← r.required "front" Json.str?
    back := ← r.required "back" Json.str?
    scheduling := ← r.required "scheduling" SchedulingState.ofJson?
    flag := ← r.withDefault "flag" 0 Json.uint8?
    marked := ← r.withDefault "marked" false Json.bool?
    suspended := ← r.withDefault "suspended" false Json.bool?
    usn := ← r.required "usn" Json.int64? }

end Card

namespace Review

/-- The document of a review. -/
def toJson (r : Review) : Json :=
  .obj ([("rating", r.rating.toJson), ("reviewed_at", r.reviewedAt.toJson),
      ("status_before", r.statusBefore.toJson), ("interval_before", .float r.intervalBefore),
      ("interval_after", .float r.intervalAfter), ("ease_before", .float r.easeBefore),
      ("ease_after", .float r.easeAfter)] ++
    member? "time_taken_ms" .ofNat r.timeTakenMs)

/-- The review of a document. -/
def ofJson? (j : Json) : Option Review := do
  let r ← j.record?
    ["rating", "reviewed_at", "status_before", "interval_before", "interval_after", "ease_before",
      "ease_after", "time_taken_ms"] 8
  pure {
    rating := ← r.required "rating" Rating.ofJson?
    reviewedAt := ← r.required "reviewed_at" Timestamp.ofJson?
    statusBefore := ← r.required "status_before" CardStatus.ofJson?
    intervalBefore := ← r.required "interval_before" Json.float?
    intervalAfter := ← r.required "interval_after" Json.float?
    easeBefore := ← r.required "ease_before" Json.float?
    easeAfter := ← r.required "ease_after" Json.float?
    timeTakenMs := ← r.optional "time_taken_ms" Json.nat32? }

end Review

namespace Deck

/-- The document of a deck. -/
def toJson (d : Deck) : Json := .obj [("id", .int d.id), ("name", .str d.name)]

/-- The deck of a document. -/
def ofJson? (j : Json) : Option Deck := do
  let r ← j.record? ["id", "name"] 2
  pure ⟨← r.required "id" Json.int64?, ← r.required "name" Json.str?⟩

end Deck

namespace IdSequence

/-- The document of an id sequence. -/
def toJson (ids : IdSequence) : Json := .obj [("next", .int ids.next)]

/-- The id sequence of a document. -/
def ofJson? (j : Json) : Option IdSequence := do
  let r ← j.record? ["next"] 1
  pure ⟨← r.required "next" Json.int64?⟩

end IdSequence

end Flashcard
