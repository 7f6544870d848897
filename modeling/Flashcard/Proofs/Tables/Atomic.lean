import Flashcard.Proofs.Batch
import Flashcard.Proofs.NoteTypeEdit
import Flashcard.Proofs.Tables.Row
import Flashcard.Proofs.Tables.Writes
import Flashcard.Proofs.Transactional

/-!
# Atomic work on tables

Most requests to a collection in tables make one change, at their end, or a change behind which
nothing can fail. So a request that fails leaves the tables as they were, whatever is in them.

- `Tables.SortInRange`: the columns for sort positions hold no more than they can.
- `Tables.Fetchable`: the notes of a type can be fetched, and so be listed.

## Main statements

- `Tables.atomic_addNote`, `Tables.atomic_updateNote`, `Tables.atomic_answerCard`,
  `Tables.atomic_updateCardFlags`: the requests.
- `Tables.noteType?_edited`: a note type whose edit was saved can be read.
- `Tables.unfailing_regenerate`: what it takes to make cards anew.
-/

namespace Flashcard

namespace Tables

open Collection

variable {t t' : Tables}

/-! ## Decks -/

/-- The tables with a deck of a name, which is added if there is none. -/
def withDeck (name : String) (t : Tables) : Tables :=
  if t.decks.values.contains name then t
  else { t with decks := t.decks.insert (Store.nextId t.decks) name }

/-- To make sure of a deck never fails. -/
theorem ensureDeck_eq (name : String) (t : Tables) :
    ∃ id, store.ensureDeck name t = .ok id (t.withDeck name) := by
  have hcontains : t.decks.values.contains name =
      (t.decks.entries.find? (·.2 == name)).isSome := by
    rw [Bool.eq_iff_iff, List.find?_isSome]
    simp [SortedMap.values]
  have hlook : Store.look (store.deckNamed? name) t =
      .ok ((t.decks.entries.find? (·.2 == name)).map (·.1)) t := rfl
  unfold Store.ensureDeck withDeck
  rw [hcontains]
  cases hfind : t.decks.entries.find? (·.2 == name) with
  | some row =>
    rw [hfind] at hlook
    exact ⟨row.1, done_bind.mpr ⟨some row.1, t, hlook, rfl⟩⟩
  | none =>
    have habsent : t.decks.values.contains name = false := by rw [hcontains, hfind]; rfl
    have hcreate : store.createDeck name t = .ok ⟨Store.nextId t.decks, name⟩
        { t with decks := t.decks.insert (Store.nextId t.decks) name } :=
      insertDeck_eq_ok.mpr ⟨habsent, rfl, rfl⟩
    rw [hfind] at hlook
    exact ⟨_, done_bind.mpr ⟨none, t, hlook, done_bind.mpr ⟨_, _, hcreate, rfl⟩⟩⟩

/-! ## Cards that can be read -/

/-- A row's numbers can be read exactly if ordinal and flag fit their types. -/
theorem CardRow.check_eq_ok {row : CardRow} :
    row.check = .ok () ↔ checkRange row.ordinal 0x100000000 4 = .ok () ∧
      checkRange row.flag 0x100 8 = .ok () := by
  rw [check, bind_eq_ok]
  exact ⟨fun ⟨_, h⟩ => h, fun h => ⟨(), h⟩⟩

/-- A card is read from its row with the state that is read of the row's. -/
theorem CardRow.decode_eq_ok {id : CardId} {row : CardRow} {c : Card} (h : row.decode id = .ok c) :
    c.id = id ∧ c.noteId = row.noteId ∧ c.deckId = row.deckId ∧
      c.templateName = row.templateName ∧ c.ordinal = UInt32.ofNat row.ordinal.toNat ∧
      ∃ s, readState s = .ok c.scheduling := by
  simp only [decode, bind_eq_ok, pure_eq_ok] at h
  obtain ⟨s, -, s', hread, rfl⟩ := h
  exact ⟨rfl, rfl, rfl, rfl, rfl, s, hread⟩

/-- A row with a finite state is read. -/
theorem CardRow.exists_decode {id : CardId} {row : CardRow} {s : SchedulingState}
    (hcell : row.scheduling = .written s) (finite : s.Finite) : ∃ c, row.decode id = .ok c := by
  unfold decode
  rw [hcell]
  dsimp only [Cell.read, bind, Except.bind]
  rw [readState_eq_ok.mpr ⟨finite, rfl⟩]
  exact ⟨_, rfl⟩

/-- A card is decoded with the id that it is stored under. -/
theorem CardRow.id_decode {id : CardId} {row : CardRow} {c : Card} (h : row.decode id = .ok c) :
    c.id = id := (CardRow.decode_eq_ok h).1

/-- A card is found exactly where there is a row that can be read and decoded. -/
theorem card?_eq_some {id : CardId} {c : Card} :
    card? id t = .ok (some c) ↔ ∃ row, t.cards.get? id = some row ∧ row.check = .ok () ∧
      row.decode id = .ok c := by
  have hrows : t.cards.entries.filter (·.1 == id) =
      (t.cards.get? id).toList.map fun row => (id, row) := SortedMap.filter_key t.cards id
  unfold card? CardRow.decodeAll
  rw [hrows]
  cases t.cards.get? id with
  | none => simp
  | some row => cases hcheck : row.check <;> cases hdecode : row.decode id <;> simp [hcheck, hdecode]

/-- A card that is found has the id that it was looked up by. -/
theorem id_of_card? {id : CardId} {c : Card} (h : card? id t = .ok (some c)) : c.id = id := by
  obtain ⟨row, -, -, hdecode⟩ := card?_eq_some.mp h
  exact CardRow.id_decode hdecode

/-- The state of a card that can be read is finite. -/
theorem finite_of_card? {id : CardId} {c : Card} (h : card? id t = .ok (some c)) :
    c.scheduling.Finite := by
  obtain ⟨row, -, -, hdecode⟩ := card?_eq_some.mp h
  obtain ⟨-, -, -, -, -, s, hread⟩ := CardRow.decode_eq_ok hdecode
  exact finite_readState hread

/-- The number of the next change is one of 64 bits. -/
theorem unusedUsn_eq_ok {usn : Usn} : unusedUsn t = .ok usn ↔ t.usn < lastId ∧ usn = t.usn + 1 := by
  unfold unusedUsn
  split
  · next h => simp [h, eq_comm]
  · next h => simp [h]

/-- All notes of a type can be fetched. -/
def Fetchable (typeName : String) (t : Tables) : Prop :=
  ∀ n row, t.notes.get? n = some row → row.typeName = typeName → row.misfits = []

/-- The notes of a type can be fetched exactly if no row of theirs has a value of the wrong kind. -/
theorem fetchable_iff {typeName : String} : t.Fetchable typeName ↔
    ∀ row ∈ t.notes.entries.filter (·.2.typeName == typeName), row.2.misfits = [] := by
  simp only [Fetchable, SortedMap.get?_eq_some_iff, List.mem_filter, beq_iff_eq]
  exact ⟨fun h row hrow => h row.1 row.2 hrow.1 hrow.2, fun h n row hrow hname => h (n, row) ⟨hrow, hname⟩⟩

/-- Rows are fetched as they are, if all of them can be fetched. -/
theorem mapM_fetch_eq_ok {rows rows' : List (NoteId × NoteRow)} :
    (rows.mapM fun row => do pure (row.1, ← row.2.fetch)) = .ok rows' ↔
      (∀ row ∈ rows, row.2.misfits = []) ∧ rows' = rows := by
  have hone : ∀ row row' : NoteId × NoteRow,
      (do pure (row.1, ← row.2.fetch) : Except StoreError (NoteId × NoteRow)) = .ok row' ↔
        row.2.misfits = [] ∧ row' = row := by
    intro row row'
    simp only [bind_eq_ok, NoteRow.fetch_eq_ok, pure_eq_ok]
    constructor
    · rintro ⟨_, ⟨hfit, rfl⟩, heq⟩
      exact ⟨hfit, heq.symm⟩
    · rintro ⟨hfit, heq⟩
      exact ⟨_, ⟨hfit, rfl⟩, heq.symm⟩
  have hall (hfit : ∀ row ∈ rows, row.2.misfits = []) :
      (rows.mapM fun row => do pure (row.1, ← row.2.fetch)) = .ok rows := by
    rw [mapM_eq_ok fun row hrow => (hone row row).mpr ⟨hfit row hrow, rfl⟩, List.map_id']
  constructor
  · intro h
    have hfit : ∀ row ∈ rows, row.2.misfits = [] := fun row hrow =>
      (exists_of_mapM_eq_ok h row hrow).elim fun row' hrow' => ((hone row row').mp hrow').1
    exact ⟨hfit, Except.ok.inj (h.symm.trans (hall hfit))⟩
  · rintro ⟨hfit, rfl⟩
    exact hall hfit

/-- The notes of a type can be listed exactly if all of them can be fetched. -/
theorem notesOfType_eq_ok {typeName : String} {entries : List (Except StoreError Note)} :
    notesOfType typeName t = .ok entries ↔ t.Fetchable typeName ∧
      entries = (t.notes.entries.filter (·.2.typeName == typeName)).map fun row =>
        row.2.decode row.1 := by
  rw [notesOfType, bind_eq_ok, fetchable_iff]
  simp only [mapM_fetch_eq_ok, pure_eq_ok]
  constructor
  · rintro ⟨_, ⟨hfit, rfl⟩, heq⟩
    exact ⟨hfit, heq.symm⟩
  · rintro ⟨hfit, heq⟩
    exact ⟨_, ⟨hfit, rfl⟩, heq.symm⟩

/-! ## Note types that can be read -/

/-- No sort position is above what its column holds, which is an integer of 64 bits. -/
def SortInRange (t : Tables) : Prop :=
  ∀ name row, t.noteTypes.get? name = some row → row.sortIndex ≤ lastId

instance (t : Tables) : Decidable t.SortInRange :=
  decidable_of_iff (∀ row ∈ t.noteTypes.values, row.sortIndex ≤ lastId)
    ⟨fun h name row hget => h row (SortedMap.mem_values_iff.mpr ⟨name, hget⟩),
      fun h row hrow => (SortedMap.mem_values_iff.mp hrow).elim fun name hget => h name row hget⟩

/-- A note type is found exactly where there is a row that can be decoded. -/
theorem noteType?_eq_some {name : String} {nt : NoteType} :
    noteType? name t = .ok (some nt) ↔
      ∃ row, t.noteTypes.get? name = some row ∧ row.decode name = .ok nt := by
  unfold noteType?
  cases t.noteTypes.get? name with
  | none => simp
  | some row => cases hdecode : row.decode name <;> simp [hdecode, Except.map]

/-- A note type that can be read has its sort position in range. -/
theorem SortInRange.le (h : t.SortInRange) {name : String} {nt : NoteType}
    (found : noteType? name t = .ok (some nt)) : (nt.sortIndex : Int) ≤ lastId := by
  obtain ⟨row, hget, hdecode⟩ := noteType?_eq_some.mp found
  have hrow := h name row hget
  have hlast : 0 ≤ lastId := by decide
  rw [(NoteTypeRow.decode_eq_ok hdecode).2]
  omega

/-- A deck that is added does not touch the note types. -/
theorem SortInRange.withDeck (h : t.SortInRange) (name : String) :
    (t.withDeck name).SortInRange := by
  unfold Tables.withDeck
  split
  · exact h
  · exact h

/-- A note type is found as it was written if and only if it is in range. -/
theorem noteType?_writeNoteType {nt : NoteType} (h : writeNoteType nt t = .ok () t') :
    noteType? nt.name t' = .ok (some nt) ↔ (nt.sortIndex : Int) ≤ lastId := by
  obtain ⟨position, hget⟩ : ∃ position,
      t'.noteTypes.get? nt.name = some (NoteTypeRow.of nt position) := by
    cases h
    exact ⟨_, SortedMap.get?_insert_self ..⟩
  rw [noteType?_eq_some, hget]
  simp only [Option.some.injEq, exists_eq_left', NoteTypeRow.decode_of_iff]

/-! ## Requests -/

/-- A note is added with its cards or not at all. -/
theorem atomic_addNote (scheduler : Scheduler) (new : NewNote) (t : Tables) :
    Atomic (addNote store scheduler new) t :=
  Collection.atomic_addNote (fun _ _ => atomic_transaction _ t) scheduler new

/-- A note is changed with its cards or not at all. -/
theorem atomic_updateNote (scheduler : Scheduler) (change : NoteChange) (t : Tables) :
    Atomic (Collection.updateNote store scheduler change) t :=
  Collection.atomic_updateNote (fun _ _ => atomic_transaction _ t) scheduler change

/-- The marks of a card are changed or not. -/
theorem atomic_updateCardFlags (id : CardId) (update : CardFlagsUpdate) (t : Tables) :
    Atomic (updateCardFlags store id update) t :=
  Collection.atomic_updateCardFlags (fun c => atomic_updateCard c t) unfailing_raiseUsn id update

/-- It is still there, in any case, so it can get a review in numbers. -/
theorem unfailing_addReview {id : CardId} {c c' : Card} (hload : loadCard store id t = .ok c)
    (hdone : store.updateCard c' t = .ok () t') (hid : c'.id = c.id) {review : Review}
    (numeric : review.Numeric) : Unfailing (store.addReview id review) t' := by
  obtain rfl : c'.id = id := hid.trans (id_of_card? (loadCard_eq_ok.mp hload))
  obtain ⟨row, -, -, rfl⟩ := updateCard_eq_ok.mp hdone
  have hcontains : (t.cards.insert c'.id { CardRow.of c' with
      noteId := row.noteId, templateName := row.templateName, ordinal := row.ordinal }).contains
        c'.id = true :=
    SortedMap.contains_iff.mpr ⟨_, SortedMap.get?_insert_self ..⟩
  exact .of_done (insertReview_eq_ok.mpr ⟨numeric, hcontains, rfl⟩)

/-- A card is answered with its record or not at all, if records are in numbers. -/
theorem atomic_answerCard {scheduler : Scheduler} (numeric : scheduler.Numeric) (answer : Answer)
    (t : Tables) : Atomic (answerCard store scheduler answer) t :=
  Collection.atomic_answerCard (fun c => atomic_updateCard c t)
    (fun hload answered hdone hid => unfailing_addReview hload hdone hid
      ((numeric answered (finite_of_card? (loadCard_eq_ok.mp hload))).timed _))
    unfailing_raiseUsn

/-- Making the cards of a type anew does not fail if the type can be read, its notes can be listed and
there is a number for the changes. -/
theorem unfailing_regenerate {typeName : String} {nt : NoteType}
    {entries : List (Except StoreError Note)} (found : noteType? typeName t = .ok (some nt))
    (listed : notesOfType typeName t = .ok entries) (marked : t.usn < lastId)
    (scheduler : Scheduler) (options : RegenerationOptions) :
    Unfailing (regenerate store scheduler typeName options) t :=
  .of_done (regenerate_eq_ok (loadNoteType_eq_ok.mpr found) listed rfl (unusedUsn_eq_ok.mpr ⟨marked, rfl⟩))

/-- A note type whose edit was saved can be read again. -/
theorem noteType?_edited (inRange : t.SortInRange) {typeName : String} {edit : NoteTypeEdit}
    {edited : NoteType} {notes : List Note}
    (hplan : planEdit store typeName edit t = .ok (edited, notes))
    (hsave : store.saveNoteTypeWithNotes edited notes t = .ok () t')
    (affects : edit.affectsCards = true) : noteType? typeName t' = .ok (some edited) := by
  obtain ⟨nt, found, hedit, -⟩ := of_planEdit hplan
  obtain ⟨_, _, -, hwrite⟩ := done_bind.mp (done_transaction.mp hsave)
  have hname : edited.name = typeName := by
    obtain ⟨row, -, hdecode⟩ := noteType?_eq_some.mp found
    exact (NoteType.name_edit hedit).trans (NoteTypeRow.decode_eq_ok hdecode).1
  -- an edit that affects cards moves no sort position up
  have hrange : (edited.sortIndex : Int) ≤ lastId := by
    have := NoteType.sortIndex_edit_le hedit affects
    have := inRange.le found
    omega
  exact hname ▸ (noteType?_writeNoteType hwrite).mpr hrange

end Tables

end Flashcard
