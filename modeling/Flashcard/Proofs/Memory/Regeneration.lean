import Flashcard.Proofs.Memory.Report

/-!
# Making cards anew, note by note

Making the cards of a type anew comes to the same for each note, whatever becomes of the others: its
cards show its drafts then, unless the note cannot be read or was made to fail, and they are as they
were otherwise. The report says how many notes and cards this was. All of this holds of every store in
memory, with stale cards, several cards of one identity and any planted faults.

- `Memory.batch`: the batch that making cards anew comes to.
- `Memory.Regenerated`: what becomes of the store.

## Main statements

- `Memory.regenerated_batch`: for filed stores.
- `Memory.regenerate_exact`: for every store in memory.
-/

namespace Flashcard

namespace Memory

open Collection

/-- The batch that making the cards of a type anew comes to. -/
def batch (m : Memory) (scheduler : Scheduler) (typeName : String) (options : RegenerationOptions)
    (nt : NoteType) : Batch × Memory :=
  Batch.run ⟨{ noteType := typeName, notesTotal := (m.listed typeName).length }, {}⟩ store
    (m.regenerator scheduler options.defaultDeck options.now) nt options.cancel
    (m.listed typeName) m

/-- What becomes of a store when the cards of a type are made anew, and what is reported of it. -/
structure Regenerated (nt : NoteType) (typeName : String) (m : Memory) (report : RegenerationReport)
    (m' : Memory) : Prop where
  total : report.notesTotal = report.notesSucceeded + report.notesFailed
  /-- The notes of the type, those included that cannot be read. -/
  listed : report.notesTotal = (m.listed typeName).length
  failures : report.failures.length = report.notesFailed
  /-- A note fails where it cannot be read or was made to fail. -/
  failed : report.failures = (m.listed typeName).filterMap m.failureOf?
  grown : (m'.cards.values.length : Int) - m.cards.values.length =
    report.cardsCreated - report.cardsDeleted
  /-- Where the cards of a note of the type can be read, they show the drafts of the note. -/
  fitted : ∀ id note, m.notes.get? id = some (.readable note) → note.typeName = typeName →
    ∀ cards, store.cardsOfNote id m = .ok cards →
      ∃ drafts, compile (.only nt) typeName note.fields = .ok drafts ∧ m'.Shows id drafts
  /-- The cards of all others are as they were, with their reviews: those of notes that fail, of notes
  of other types, and of notes that are not there. -/
  untouched : ∀ id, (∀ note cards, m.notes.get? id = some (.readable note) →
    note.typeName = typeName → store.cardsOfNote id m ≠ .ok cards) → SameNote id m m'
  notes : m'.notes = m.notes
  noteTypes : m'.noteTypes = m.noteTypes
  decks : m'.decks = m.decks

variable {m : Memory} {scheduler : Scheduler} {typeName : String} {options : RegenerationOptions}
  {nt : NoteType}

theorem regenerate_eq_batch (typed : m.noteTypes.get? typeName = some nt) (scheduler : Scheduler)
    (options : RegenerationOptions) :
    regenerate store scheduler typeName options m =
      .ok (m.batch scheduler typeName options nt).1.report
        (m.batch scheduler typeName options nt).2 :=
  regenerate_eq_ok (loadNoteType_eq_ok.mpr (congrArg Except.ok typed)) rfl rfl rfl

theorem cardsOfNote_ok_iff {id : NoteId} :
    (∃ cards, store.cardsOfNote id m = .ok cards) ↔ id ∉ m.failing := by
  constructor
  · rintro ⟨cards, h⟩
    exact checkNote_eq_ok.mp (cardsOfNote_eq_ok.mp h).1
  · intro h
    exact ⟨_, cardsOfNote_eq (checkNote_eq_ok.mpr h)⟩

section Batch

variable (filed : Filed m) (typed : m.noteTypes.get? typeName = some nt)
  (uncancelled : ∀ progress, options.cancel progress = false)

include filed typed

theorem named_listed {note : Note} (hnote : .ok note ∈ m.listed typeName) :
    nt.name = note.typeName :=
  (filed.types _ _ typed).trans (mem_listed hnote).1.symm

include uncancelled

/-- The cards of a listed note that was not made to fail show its drafts. -/
theorem shows_batch {note : Note} (hnote : .ok note ∈ m.listed typeName)
    (hn : note.id ∉ m.failing) :
    (m.batch scheduler typeName options nt).2.Shows note.id (nt.drafts note.fields) := by
  obtain ⟨first, -, hfits⟩ := run_fitted _ nt options.cancel _ filed.cards
    (nodup_idsOf_listed filed typeName) uncancelled hnote hn (named_listed filed typed hnote)
  exact hfits.shows filed.cards

theorem tallied_batch (scheduler : Scheduler) :
    Tallied (m.listed typeName)
      ⟨{ noteType := typeName, notesTotal := (m.listed typeName).length }, {}⟩ m
      (m.batch scheduler typeName options nt).1 (m.batch scheduler typeName options nt).2 :=
  tallied_run _ nt options.cancel _ filed.cards (fun _ => named_listed filed typed) uncancelled

/-- **Cards are made anew note by note**, in every filed store. -/
theorem regenerated_batch :
    Regenerated nt typeName m (m.batch scheduler typeName options nt).1.report
      (m.batch scheduler typeName options nt).2 := by
  have tallied := tallied_batch filed typed uncancelled scheduler
  have htotal := tallied.total
  have hworked := tallied.worked
  have hfailed := tallied.failed
  have hfailures := tallied.failures
  have hgrown := tallied.grown
  dsimp only at htotal hworked hfailed hfailures hgrown
  rw [List.nil_append] at hfailures
  refine ⟨by omega, htotal, by rw [hfailures]; omega, hfailures, by omega, ?_, ?_, run_notes ..,
    run_types .., run_same _ _ _ (·.decks) decks_writePlan _ _ m⟩
  · intro id note hget htype cards hcards
    obtain rfl := filed.notes id note hget
    refine ⟨_, compile_only_eq_ok.mpr ⟨filed.types _ _ typed, rfl⟩, ?_⟩
    exact shows_batch filed typed uncancelled ((mem_listed_iff filed).mpr ⟨htype, hget⟩)
      (cardsOfNote_ok_iff.mp ⟨cards, hcards⟩)
  · intro id hother
    refine run_untouched _ nt options.cancel _ filed.cards ?_
    rintro note hnote rfl
    obtain ⟨htype, hget⟩ := (mem_listed_iff filed).mp hnote
    by_contra hn
    obtain ⟨cards, hcards⟩ := cardsOfNote_ok_iff.mpr hn
    exact hother note cards hget htype hcards

end Batch

/-- **Making cards anew is exact**: in every store in memory, for every type that it has and as long as
no one cancels, it comes to an end in which each note that can be worked on has the cards that it
should have, nothing else has changed, and the report counts what happened. -/
theorem regenerate_exact (acts : List Act) (scheduler : Scheduler) (typeName : String)
    (options : RegenerationOptions) (nt : NoteType)
    (typed : (made acts).noteTypes.get? typeName = some nt)
    (uncancelled : ∀ progress, options.cancel progress = false) :
    ∃ report m', regenerate store scheduler typeName options (made acts) = .ok report m' ∧
      Regenerated nt typeName (made acts) report m' :=
  ⟨_, _, regenerate_eq_batch typed scheduler options,
    regenerated_batch (filed_made acts) typed uncancelled⟩

/-- A card with old content. -/
def stale (id : CardId) (note : NoteId) (ordinal : UInt32) : Card where
  id := id
  noteId := note
  deckId := 7
  templateName := "Card 1"
  ordinal := ordinal
  front := "old"
  back := "old"
  scheduling := Sm2.newCard {} ⟨0, 0⟩
  usn := 3

/-- A note of the stock type for one card. -/
def plainNote (id : NoteId) : Note where
  id := id
  typeName := "Basic"
  fields := .ofList [("Front", "F"), ("Back", "B")]
  tags := []
  createdAt := ⟨0, 0⟩
  modifiedAt := ⟨0, 0⟩
  usn := 1

/-- What makes a store with a note that has two cards of one identity and one of another, a note that
was made to fail, a note that cannot be read, a note without cards, and a card of no note. -/
def faulty : List Act :=
  [.update (.saveNoteType NoteType.basic), .update (.createNote (plainNote 1)),
    .update (.createNote (plainNote 2)), .update (.createNote (plainNote 4)),
    .update (.createCard (stale 5 1 0)), .update (.createCard (stale 6 1 0)),
    .update (.createCard (stale 9 1 8)), .update (.createCard (stale 7 2 0)),
    .update (.createCard (stale 8 50 0)), .spoilNote 3 "Basic" "bad row", .failNote 2]

/-- Of its four notes two fail: the one that was made to, and the one that cannot be read. -/
theorem regenerate_exact_faulty :
    (made faulty).noteTypes.get? "Basic" = some NoteType.basic ∧ ∃ report m',
      regenerate store {} "Basic" ⟨1, ⟨0, 0⟩, neverCancelled⟩ (made faulty) = .ok report m' ∧
        Regenerated NoteType.basic "Basic" (made faulty) report m' ∧ report.notesTotal = 4 ∧
          report.failures.map (·.noteId) = [some 2, none] := by
  have typed : (made faulty).noteTypes.get? "Basic" = some NoteType.basic := by decide +kernel
  obtain ⟨report, m', hdone, h⟩ := regenerate_exact faulty {} "Basic" ⟨1, ⟨0, 0⟩, neverCancelled⟩
    _ typed fun _ => rfl
  refine ⟨typed, report, m', hdone, h, h.listed.trans (by decide +kernel), ?_⟩
  rw [h.failed]
  decide +kernel

end Memory

end Flashcard
