import Flashcard.Document.Card
import Flashcard.Store.Tables.Basic

/-!
# Collections as documents

The JSON form in which a whole collection is kept in a file. It has one record for each row,
whatever the row's columns hold. A double is an integer of 64 bits, so that it comes back as it
was.

- `Tables`: with `toJson` and `ofJson?`.
-/

namespace Flashcard.Tables

/-- The document of an integer column that may be empty. -/
def optionalToJson : Option Int → Json := .ofOption .int

/-- The document of a double: the number that its bits are. -/
def bitsToJson (x : Float) : Json := .ofNat x.toBits.toNat

/-- The double of a document. -/
def ofBits? (j : Json) : Option Float := (Json.nat64? j).map fun n => Float.ofBits (UInt64.ofNat n)

/-- The document of a scheduling state with its doubles as bits. -/
def schedulingToJson (s : SchedulingState) : Json :=
  .obj [("status", s.status.toJson), ("interval_days", bitsToJson s.intervalDays),
    ("ease_factor", bitsToJson s.easeFactor), ("stability", .ofOption bitsToJson s.stability),
    ("difficulty", .ofOption bitsToJson s.difficulty), ("lapses", .ofNat s.lapses),
    ("reviews_count", .ofNat s.reviewsCount), ("due_date", .ofOption Timestamp.toJson s.dueDate)]

/-- The scheduling state of a document with doubles as bits. -/
def schedulingOfJson? (j : Json) : Option SchedulingState := do
  let r ← j.record?
    ["status", "interval_days", "ease_factor", "stability", "difficulty", "lapses",
      "reviews_count", "due_date"] 8
  pure {
    status := ← r.required "status" CardStatus.ofJson?
    intervalDays := ← r.required "interval_days" ofBits?
    easeFactor := ← r.required "ease_factor" ofBits?
    stability := ← r.optional "stability" ofBits?
    difficulty := ← r.optional "difficulty" ofBits?
    lapses := ← r.required "lapses" Json.nat32?
    reviewsCount := ← r.required "reviews_count" Json.nat32?
    dueDate := ← r.optional "due_date" Timestamp.ofJson? }

namespace Cell

variable {α : Type}

/-- The document of a column. -/
def toJson (f : α → Json) : Cell α → Json
  | written value => .obj [("value", f value)]
  | spoiled reason => .obj [("reason", .str reason)]

/-- The column of a document. -/
def ofJson? (decode : Json → Option α) : Json → Option (Cell α)
  | .obj [("value", j)] => (decode j).map written
  | .obj [("reason", .str reason)] => some (spoiled reason)
  | _ => none

end Cell

namespace NoteTypeRow

/-- The document of a row and its key. -/
def toJson (name : String) (row : NoteTypeRow) : Json :=
  .obj [("name", .str name), ("position", .int row.position),
    ("fields", row.fields.toJson .ofStrings),
    ("templates", row.templates.toJson fun templates => .arr (templates.map CardTemplate.toJson)),
    ("sort_field_index", .int row.sortIndex),
    ("field_options", row.fieldOptions.toJson (.ofMap FieldOptions.toJson))]

/-- The row and the key of a document. -/
def ofJson? (j : Json) : Option (String × NoteTypeRow) := do
  let r ← j.record?
    ["name", "position", "fields", "templates", "sort_field_index", "field_options"] 6
  pure (← r.required "name" Json.str?, {
    position := ← r.required "position" Json.int64?
    fields := ← r.required "fields" (Cell.ofJson? (Json.list? Json.str?))
    templates := ← r.required "templates" (Cell.ofJson? (Json.list? CardTemplate.ofJson?))
    sortIndex := ← r.required "sort_field_index" Json.int64?
    fieldOptions :=
      ← r.required "field_options" (Cell.ofJson? (Json.map? FieldOptions.ofJson?)) })

end NoteTypeRow

namespace NoteRow

/-- The document of a column with the kind of what it holds. -/
def misfitToJson (misfit : NoteColumn × StorageClass) : Json :=
  .arr [.str misfit.1.name, .str misfit.2.name]

/-- The column and the kind of a document. -/
def misfitOfJson? (j : Json) : Option (NoteColumn × StorageClass) := do
  match ← Json.list? Json.str? j with
  | [column, kind] => pure (← NoteColumn.ofName? column, ← StorageClass.ofName? kind)
  | _ => none

/-- The document of a row and its key. -/
def toJson (id : NoteId) (row : NoteRow) : Json :=
  .obj [("id", .int id), ("type_name", .str row.typeName),
    ("field_map", row.fields.toJson FieldMap.toJson), ("tags", row.tags.toJson .ofStrings),
    ("created_at", .str row.createdAt), ("modified_at", .str row.modifiedAt),
    ("usn", .int row.usn),
    ("misfits", .arr (row.misfits.map misfitToJson))]

/-- The row and the key of a document. -/
def ofJson? (j : Json) : Option (NoteId × NoteRow) := do
  let r ← j.record?
    ["id", "type_name", "field_map", "tags", "created_at", "modified_at", "usn", "misfits"] 8
  pure (← r.required "id" Json.int64?, {
    typeName := ← r.required "type_name" Json.str?
    fields := ← r.required "field_map" (Cell.ofJson? FieldMap.ofJson?)
    tags := ← r.required "tags" (Cell.ofJson? (Json.list? Json.str?))
    createdAt := ← r.required "created_at" Json.str?
    modifiedAt := ← r.required "modified_at" Json.str?
    usn := ← r.required "usn" Json.int64?
    misfits := ← r.withDefault "misfits" [] (Json.list? misfitOfJson?) })

end NoteRow

namespace CardRow

/-- The document of a row and its key. -/
def toJson (id : CardId) (row : CardRow) : Json :=
  .obj [("id", .int id), ("note_id", .int row.noteId), ("deck_id", .int row.deckId),
    ("template_name", .str row.templateName), ("ordinal", .int row.ordinal),
    ("front", .str row.front), ("back", .str row.back),
    ("scheduling", row.scheduling.toJson schedulingToJson), ("flag", .int row.flag),
    ("marked", .bool row.marked), ("suspended", .bool row.suspended), ("usn", .int row.usn),
    ("due", optionalToJson row.due)]

/-- The row and the key of a document. -/
def ofJson? (j : Json) : Option (CardId × CardRow) := do
  let r ← j.record?
    ["id", "note_id", "deck_id", "template_name", "ordinal", "front", "back", "scheduling", "flag",
      "marked", "suspended", "usn", "due"] 13
  pure (← r.required "id" Json.int64?, {
    noteId := ← r.required "note_id" Json.int64?
    deckId := ← r.required "deck_id" Json.int64?
    templateName := ← r.required "template_name" Json.str?
    ordinal := ← r.required "ordinal" Json.int64?
    front := ← r.required "front" Json.str?
    back := ← r.required "back" Json.str?
    scheduling := ← r.required "scheduling" (Cell.ofJson? schedulingOfJson?)
    flag := ← r.required "flag" Json.int64?
    marked := ← r.required "marked" Json.bool?
    suspended := ← r.required "suspended" Json.bool?
    usn := ← r.required "usn" Json.int64?
    due := ← r.optional "due" Json.int64? })

end CardRow

namespace ReviewRow

/-- The document of a row. -/
def toJson (row : ReviewRow) : Json :=
  .obj [("card_id", .int row.cardId), ("rating", .int row.grade),
    ("reviewed_at", .str row.reviewedAt), ("status_before", .str row.statusBefore),
    ("interval_before", bitsToJson row.intervalBefore),
    ("interval_after", bitsToJson row.intervalAfter),
    ("ease_before", bitsToJson row.easeBefore), ("ease_after", bitsToJson row.easeAfter),
    ("time_taken_ms", .ofOption .ofNat row.timeTakenMs)]

/-- The row of a document. -/
def ofJson? (j : Json) : Option ReviewRow := do
  let r ← j.record?
    ["card_id", "rating", "reviewed_at", "status_before", "interval_before", "interval_after",
      "ease_before", "ease_after", "time_taken_ms"] 9
  pure {
    cardId := ← r.required "card_id" Json.int64?
    grade := ← r.required "rating" Json.int64?
    reviewedAt := ← r.required "reviewed_at" Json.str?
    statusBefore := ← r.required "status_before" Json.str?
    intervalBefore := ← r.required "interval_before" ofBits?
    intervalAfter := ← r.required "interval_after" ofBits?
    easeBefore := ← r.required "ease_before" ofBits?
    easeAfter := ← r.required "ease_after" ofBits?
    timeTakenMs := ← r.optional "time_taken_ms" Json.nat32? }

end ReviewRow

/-- The document of a collection. -/
def toJson (t : Tables) : Json :=
  .obj [("schema_version", .int t.schemaVersion), ("usn", .int t.usn),
    ("decks", .arr (t.decks.entries.map fun row => (Deck.mk row.1 row.2).toJson)),
    ("note_types", .arr (t.noteTypes.entries.map fun row => row.2.toJson row.1)),
    ("notes", .arr (t.notes.entries.map fun row => row.2.toJson row.1)),
    ("cards", .arr (t.cards.entries.map fun row => row.2.toJson row.1)),
    ("reviews", .arr (t.reviews.map ReviewRow.toJson))]

/-- The collection of a document. -/
def ofJson? (j : Json) : Option Tables := do
  let r ← j.record? ["schema_version", "usn", "decks", "note_types", "notes", "cards", "reviews"] 7
  let decks ← r.required "decks" (Json.list? Deck.ofJson?)
  pure {
    schemaVersion := ← r.required "schema_version" Json.int64?
    usn := ← r.required "usn" Json.int64?
    decks := SortedMap.ofList (decks.map fun deck => (deck.id, deck.name))
    noteTypes := SortedMap.ofList (← r.required "note_types" (Json.list? NoteTypeRow.ofJson?))
    notes := SortedMap.ofList (← r.required "notes" (Json.list? NoteRow.ofJson?))
    cards := SortedMap.ofList (← r.required "cards" (Json.list? CardRow.ofJson?))
    reviews := ← r.required "reviews" (Json.list? ReviewRow.ofJson?) }

end Flashcard.Tables
