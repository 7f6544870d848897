import Flashcard.Proofs.Tables.Atomic

/-!
# Reading back what was written

Tables take notes, note types, cards and reviews as they are given, and read most of them as they
were written. They also take instants and sort positions that no reader gets out of their columns
again.

- `Tables.note?_insertNote`, `Tables.card?_insertCard`, `Tables.reviewsOf_insertReview`: the look at
  what was just written, kind by kind.
- `Tables.reads_back_iff`: what is read back, and what is not.
- `Tables.accepts_unreadable`: there is some of what is not.
-/

namespace Flashcard

namespace Tables

section Written

variable {t t' : Tables}

/-- A note is found if there is a row for it that can be fetched and read. -/
theorem note?_eq_some {id : NoteId} {note : Note} :
    note? id t = .ok (some note) ↔
      ∃ row, t.notes.get? id = some row ∧ row.misfits = [] ∧ row.decode id = .ok note := by
  unfold note?
  cases t.notes.get? id with
  | none => simp
  | some row => cases hdecode : row.decode id <;> simp [NoteRow.fetch_eq_ok, hdecode, and_assoc]

/-- A note is found as it was written if and only if its times can be read. -/
theorem note?_insertNote {note : Note} (h : insertNote note t = .ok () t') :
    note? note.id t' = .ok (some note) ↔
      TimeReadsBack note.createdAt ∧ TimeReadsBack note.modifiedAt := by
  obtain ⟨-, rfl⟩ := insertNote_eq_ok.mp h
  rw [note?_eq_some, SortedMap.get?_insert_self]
  simp only [Option.some.injEq, exists_eq_left', NoteRow.decode_of_iff]
  exact and_iff_right rfl

/-- A card is found as it was written. -/
theorem card?_insertCard {c : Card} (h : insertCard c t = .ok () t')
    (state : ReadsBack c.scheduling) : card? c.id t' = .ok (some c) := by
  obtain ⟨-, -, -, -, rfl⟩ := insertCard_eq_ok.mp h
  exact card?_eq_some.mpr ⟨_, SortedMap.get?_insert_self .., CardRow.check_of c,
    CardRow.decode_of state⟩

/-- A review comes after all reviews of its card so far, if and only if these can be read and its
time can. -/
theorem reviewsOf_insertReview {id : CardId} {r : Review} (h : insertReview id r t = .ok () t')
    (earlier : List Review) :
    reviewsOf id t' = .ok (earlier ++ [columns r]) ↔
      reviewsOf id t = .ok earlier ∧ TimeReadsBack r.reviewedAt := by
  obtain ⟨-, -, rfl⟩ := insertReview_eq_ok.mp h
  have howned : ((ReviewRow.of id r).cardId == id) = true := beq_self_eq_true id
  unfold reviewsOf
  dsimp only
  rw [List.filter_append, List.filter_singleton, howned, cond_true, mapM_concat_eq_ok,
    ReviewRow.decode_of_iff]

end Written

/-- **Tables read what they were given as it was given** if and only if their columns hold it. The
times of a note have to be instants of the years 0000 to 9999, in no leap second within a minute,
and the sort position of a note type has to fit 63 bits. A card is always read back. So is a review,
after those before it, if these are read and its time is such an instant, too. -/
theorem reads_back_iff (t t' : Tables) :
    (∀ note, store.createNote note t = .ok () t' →
      (store.note? note.id t' = .ok (some note) ↔
        note.createdAt.Expressible ∧ note.modifiedAt.Expressible)) ∧
    (∀ nt, store.saveNoteType nt t = .ok () t' →
      (store.noteType? nt.name t' = .ok (some nt) ↔ (nt.sortIndex : Int) ≤ lastId)) ∧
    (∀ c, ReadsBack c.scheduling → store.createCard c t = .ok () t' →
      store.card? c.id t' = .ok (some c)) ∧
    (∀ id r earlier, columns r = r → store.addReview id r t = .ok () t' →
      (store.reviews id t' = .ok (earlier ++ [r]) ↔
        store.reviews id t = .ok earlier ∧ r.reviewedAt.Expressible)) := by
  refine ⟨?note, ?noteType, ?card, ?review⟩
  case note =>
    intro note h
    rw [← timeReadsBack_iff, ← timeReadsBack_iff]
    exact note?_insertNote h
  case noteType =>
    intro nt h
    exact noteType?_writeNoteType h
  case card =>
    intro c state h
    exact card?_insertCard h state
  case review =>
    intro id r earlier hcolumns h
    have hread := reviewsOf_insertReview h earlier
    rw [hcolumns] at hread
    rw [← timeReadsBack_iff]
    exact hread

/-! ## At the limits of the columns -/

/-- A note of an instant. -/
def dated (now : Timestamp) : Note := ⟨1, "Basic", .empty, [], now, now, 1⟩

/-- A note type that is sorted by the field of a position. -/
def sortedBy (index : Nat) : NoteType :=
  { name := "Sorted", fields := ["Front"], templates := [], sortIndex := index }

/-- A card of such a note. -/
def filedCard : Card where
  id := 1
  noteId := 1
  deckId := 1
  templateName := "Card 1"
  ordinal := 0
  front := "Q"
  back := "A"
  scheduling := ⟨.new, 0, 2.5, none, none, 0, 0, some ⟨60, 0⟩⟩
  usn := 1

/-- A review at an instant. -/
def reviewed (now : Timestamp) : Review := ⟨.good, now, .new, 0, 1, 2.5, 2.5, some 1200⟩

/-- Tables with the note and the deck of that card. -/
def beforeCard : Tables where
  decks := .ofList [(1, "Default")]
  notes := .ofList [(1, .of (dated ⟨60, 0⟩))]

/-- The same tables with the card. -/
def withCard : Tables := { beforeCard with cards := .ofList [(1, .of filedCard)] }

/-- The last instant of the year 9999, the last sort position of 63 bits, a new card, and a leap
second at the end of a year are read back. -/
theorem reads_back_at_limits :
    (∃ t, store.createNote (dated ⟨253402300799, 999999999⟩) {} = .ok () t ∧
      store.note? 1 t = .ok (some (dated ⟨253402300799, 999999999⟩))) ∧
    (∃ t, store.saveNoteType (sortedBy 0x7FFFFFFFFFFFFFFF) {} = .ok () t ∧
      store.noteType? "Sorted" t = .ok (some (sortedBy 0x7FFFFFFFFFFFFFFF))) ∧
    (∃ t, store.createCard filedCard beforeCard = .ok () t ∧
      store.card? 1 t = .ok (some filedCard)) ∧
    (∃ t, store.addReview 1 (reviewed ⟨1483228799, 1500000000⟩) withCard = .ok () t ∧
      store.reviews 1 t = .ok [reviewed ⟨1483228799, 1500000000⟩]) := by
  refine ⟨⟨_, rfl, ?note⟩, ⟨_, rfl, ?noteType⟩, ⟨_, rfl, ?card⟩, ⟨_, rfl, ?review⟩⟩
  case note => exact ((reads_back_iff {} _).1 (dated _) rfl).mpr ⟨by decide, by decide⟩
  case noteType => exact ((reads_back_iff {} _).2.1 (sortedBy _) rfl).mpr (by decide)
  case card => exact (reads_back_iff beforeCard _).2.2.1 filedCard (by decide +kernel) rfl
  case review =>
    exact ((reads_back_iff withCard _).2.2.2 1 (reviewed _) [] (by decide +kernel) rfl).mpr
      ⟨rfl, by decide⟩

/-- The next instant and the next sort position are accepted as well, but not read again. -/
theorem accepts_unreadable :
    (∃ t, store.createNote (dated ⟨253402300800, 0⟩) {} = .ok () t ∧
      store.note? 1 t =
        .error (.corrupt (.timestamp "+10000-01-01T00:00:00+00:00" .invalid))) ∧
    (∃ t, store.saveNoteType (sortedBy 0x8000000000000000) {} = .ok () t ∧
      store.noteType? "Sorted" t = .error (.corrupt (.sortIndex (-0x8000000000000000)))) ∧
    (∃ t, store.addReview 1 (reviewed ⟨253402300800, 0⟩) withCard = .ok () t ∧
      store.reviews 1 t =
        .error (.corrupt (.timestamp "+10000-01-01T00:00:00+00:00" .invalid))) :=
  ⟨⟨_, rfl, by decide +kernel⟩, ⟨_, rfl, by decide +kernel⟩, ⟨_, rfl, by decide +kernel⟩⟩

end Tables

end Flashcard
