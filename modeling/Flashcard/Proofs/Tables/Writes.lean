import Flashcard.Proofs.Atomic
import Flashcard.Proofs.Reconcile
import Flashcard.Proofs.SortedMap
import Flashcard.Proofs.Tables.Row

/-!
# Single writes of tables

When a write of one row is not refused, and what it leaves then. A write that is refused leaves
everything as it was, and so does a transaction that fails.

- `Tables.insertCard_eq_ok`, `Tables.updateCard_eq_ok` and their like: writes that are not refused.
- `Tables.atomic_insertCard` and its like: writes that are refused.
- `Tables.done_transaction`, `Tables.atomic_transaction`: transactions.
-/

namespace Flashcard

namespace Tables

open Collection

variable {t t' : Tables} {n : NoteId} {id : CardId} {c : Card}

/-! ## Transactions -/

/-- A transaction that goes through does what is in it. -/
theorem done_transaction {α : Type} {update : Update Tables α} {a : α} :
    transaction update t = .ok a t' ↔ update t = .ok a t' := by
  unfold transaction
  cases update t <;> simp

/-- A transaction that fails is rolled back. -/
theorem atomic_transaction {α : Type} (update : Update Tables α) (t : Tables) :
    Atomic (transaction update) t := by
  intro e t' hfail
  unfold transaction at hfail
  split at hfail <;> cases hfail
  rfl

/-! ## Writes that are not refused -/

theorem unfailing_raiseUsn (usn : Usn) (t : Tables) : Unfailing (raiseUsn usn) t := .of_done rfl

/-- No other row has the identity of a card if it has no twin. -/
theorem hasTwin_eq_false {templateName : String} {ordinal : Int} :
    t.hasTwin id n templateName ordinal = false ↔
      ∀ id' row', t.cards.get? id' = some row' → row'.noteId = n →
        row'.templateName = templateName → row'.ordinal = ordinal → id' = id := by
  rw [← Bool.not_eq_true, hasTwin, List.any_eq_true]
  constructor
  · intro hnone id' row' hget hn hname hordinal
    by_contra hne
    exact hnone ⟨(id', row'), SortedMap.get?_eq_some_iff.mp hget, by simp [hne, hn, hname, hordinal]⟩
  · rintro hall ⟨⟨id', row'⟩, hmem, htwin⟩
    simp only [Bool.and_eq_true, bne_iff_ne, beq_iff_eq] at htwin
    obtain ⟨⟨⟨hne, hn⟩, hname⟩, hordinal⟩ := htwin
    exact hne (hall id' row' (SortedMap.get?_eq_some_iff.mpr hmem) hn hname hordinal)

/-- A new card is taken under a free id and identity, for a note and a deck that are there. -/
theorem insertCard_eq_ok :
    insertCard c t = .ok () t' ↔
      t.cards.contains c.id = false ∧
        t.hasTwin c.id c.noteId c.templateName c.ordinal.toNat = false ∧
        t.notes.contains c.noteId = true ∧ t.decks.contains c.deckId = true ∧
        t' = { t with cards := t.cards.insert c.id (.of c) } := by
  unfold insertCard refuse
  cases t.cards.contains c.id
  · cases t.hasTwin c.id c.noteId c.templateName c.ordinal.toNat
    · cases t.notes.contains c.noteId <;> cases t.decks.contains c.deckId <;> simp [eq_comm]
    · simp
  · simp

/-- A card that is there is changed, but for its note and identity. -/
theorem updateCard_eq_ok :
    updateCard c t = .ok () t' ↔
      ∃ row, t.cards.get? c.id = some row ∧ t.decks.contains c.deckId = true ∧
        t' = { t with cards := t.cards.insert c.id { CardRow.of c with
          noteId := row.noteId, templateName := row.templateName, ordinal := row.ordinal } } := by
  unfold updateCard refuse
  cases t.cards.get? c.id with
  | none => simp
  | some row => cases t.decks.contains c.deckId <;> simp [eq_comm]

/-- A card that is there goes with its reviews. -/
theorem deleteCard_eq_ok :
    deleteCard id t = .ok () t' ↔ t.cards.contains id = true ∧
      t' = { t with
        cards := t.cards.erase id
        reviews := t.reviews.filter (·.cardId != id) } := by
  unfold deleteCard refuse
  cases t.cards.contains id <;> simp [eq_comm]

/-- A review in numbers of a card that is there comes last. -/
theorem insertReview_eq_ok {r : Review} :
    insertReview id r t = .ok () t' ↔ r.Numeric ∧ t.cards.contains id = true ∧
      t' = { t with reviews := t.reviews ++ [.of id r] } := by
  rw [← ReviewRow.missing?_eq_none]
  unfold insertReview refuse
  cases ReviewRow.missing? r with
  | some column => simp
  | none => cases t.cards.contains id <;> simp [eq_comm]

/-- A deck of a new name comes under the next id. -/
theorem insertDeck_eq_ok {name : String} {deck : Deck} :
    insertDeck name t = .ok deck t' ↔ t.decks.values.contains name = false ∧
      deck = ⟨Store.nextId t.decks, name⟩ ∧
      t' = { t with decks := t.decks.insert (Store.nextId t.decks) name } := by
  unfold insertDeck refuse
  cases t.decks.values.contains name <;> simp [eq_comm]

/-- A new note is taken under a free id. -/
theorem insertNote_eq_ok {note : Note} :
    insertNote note t = .ok () t' ↔ t.notes.contains note.id = false ∧
      t' = { t with notes := t.notes.insert note.id (.of note) } := by
  unfold insertNote refuse
  cases t.notes.contains note.id <;> simp [eq_comm]

/-- A note that is there is changed, but for the time of its creation. -/
theorem updateNote_eq_ok {note : Note} :
    updateNote note t = .ok () t' ↔ ∃ row, t.notes.get? note.id = some row ∧
      t' = { t with notes := t.notes.insert note.id (row.update note) } := by
  unfold updateNote refuse
  cases t.notes.get? note.id <;> simp [eq_comm]

/-- A plan that has nothing to do leaves all but the note and its mark. -/
theorem applyNotePlan_of_isNoop {note : Note} {plan : ReconcilePlan} (h : plan.isNoop = true) :
    store.applyNotePlan note plan t =
      .ok () { t with notes := t.notes.insert note.id (.of note), usn := max t.usn note.usn } := by
  have hidle : ∀ t', writePlan plan t' = .ok () t' := by
    obtain ⟨hcreate, hupdate, hdelete⟩ := plan.isNoop_iff.mp h
    intro t'
    rw [writePlan, Store.carryOut, hcreate, hupdate, hdelete, if_pos h]
    rfl
  exact done_transaction.mpr (done_bind.mpr ⟨(), _, rfl, done_bind.mpr ⟨(), _, hidle _, rfl⟩⟩)

/-! ## Writes that are refused -/

theorem atomic_insertCard (c : Card) (t : Tables) : Atomic (insertCard c) t := by
  intro e t' hfail
  unfold insertCard refuse at hfail
  repeat' split at hfail
  all_goals cases hfail
  all_goals rfl

theorem atomic_updateCard (c : Card) (t : Tables) : Atomic (updateCard c) t := by
  intro e t' hfail
  unfold updateCard refuse at hfail
  split at hfail
  · cases hfail
    rfl
  · split at hfail <;> cases hfail
    rfl

theorem atomic_deleteCard (id : CardId) (t : Tables) : Atomic (deleteCard id) t := by
  intro e t' hfail
  unfold deleteCard refuse at hfail
  split at hfail <;> cases hfail
  rfl

theorem atomic_insertReview (id : CardId) (r : Review) (t : Tables) :
    Atomic (insertReview id r) t := by
  intro e t' hfail
  unfold insertReview refuse at hfail
  split at hfail
  · cases hfail
    rfl
  · split at hfail <;> cases hfail
    rfl

theorem atomic_insertDeck (name : String) (t : Tables) : Atomic (insertDeck name) t := by
  intro e t' hfail
  unfold insertDeck refuse at hfail
  split at hfail <;> cases hfail
  rfl

theorem atomic_insertNote (note : Note) (t : Tables) : Atomic (insertNote note) t := by
  intro e t' hfail
  unfold insertNote refuse at hfail
  split at hfail <;> cases hfail
  rfl

theorem atomic_updateNoteRow (note : Note) (t : Tables) : Atomic (updateNote note) t := by
  intro e t' hfail
  unfold updateNote refuse at hfail
  split at hfail <;> cases hfail
  rfl

end Tables

end Flashcard
