import Flashcard.Proofs.Command.Invariant

/-!
# Constraints of tables

Beside their keys, tables have constraints: no two cards of a note have one identity, no two decks
have one name, and what a row refers to is there. Each write is refused where it would break one of
them, so the constraints always hold. That cards can be read is no constraint: a state that is not
finite is written and cannot be read.

- `Tables.Constrained`: the constraints. `Tables.Legible`: all cards can be read.
- `Tables.keepsWrites_constrained`: each write keeps the constraints.
- `Tables.keeps_legibleNote_insertCard` and its like: writes that leave the cards of a note legible.
-/

namespace Flashcard

namespace Tables

open Collection

/-- The constraints of the tables, beside those of their keys. -/
structure Constrained (t : Tables) : Prop where
  /-- No two cards have one note, template and number. -/
  single : ∀ id row id' row', t.cards.get? id = some row → t.cards.get? id' = some row' →
    row.noteId = row'.noteId → row.templateName = row'.templateName → row.ordinal = row'.ordinal →
      id = id'
  /-- Each card refers to a note that is there. -/
  noted : ∀ id row, t.cards.get? id = some row → t.notes.contains row.noteId = true
  /-- Each card refers to a deck that is there. -/
  housed : ∀ id row, t.cards.get? id = some row → t.decks.contains row.deckId = true
  deckNames : ∀ id id' name, t.decks.get? id = some name → t.decks.get? id' = some name → id = id'
  /-- Each review refers to a card that is there. -/
  reviewed : ∀ row ∈ t.reviews, t.cards.contains row.cardId = true

/-- Whether all cards can be read. -/
def Legible (t : Tables) : Prop :=
  ∀ id, t.cards.contains id = true → ∃ c, store.card? id t = .ok (some c)

/-- Whether the cards of a note can be read. -/
def LegibleNote (t : Tables) (n : NoteId) : Prop :=
  ∀ id row, t.cards.get? id = some row → row.noteId = n →
    row.check = .ok () ∧ ∃ c, row.decode id = .ok c

variable {t t' : Tables} {n : NoteId} {id : CardId} {row : CardRow} {c : Card}

/-! ## Rows of cards -/

theorem Legible.note (h : Legible t) (n : NoteId) : t.LegibleNote n := by
  intro id row hget _
  obtain ⟨c, hc⟩ := h id (SortedMap.contains_iff.mpr ⟨row, hget⟩)
  obtain ⟨row', hget', hcheck, hdecode⟩ := card?_eq_some.mp hc
  obtain rfl := Option.some.inj (hget.symm.trans hget')
  exact ⟨hcheck, c, hdecode⟩

theorem legible_iff : Legible t ↔ ∀ row ∈ t.cards.entries,
    row.2.check = .ok () ∧ (row.2.decode row.1).toOption.isSome = true := by
  constructor
  · intro h row hrow
    obtain ⟨hcheck, c, hdecode⟩ :=
      h.note row.2.noteId row.1 row.2 (SortedMap.get?_eq_some_iff.mpr hrow) rfl
    exact ⟨hcheck, Option.isSome_iff_exists.mpr ⟨c, toOption_eq_some.mpr hdecode⟩⟩
  · intro h id hcontains
    obtain ⟨row, hget⟩ := SortedMap.contains_iff.mp hcontains
    obtain ⟨hcheck, hread⟩ := h (id, row) (SortedMap.get?_eq_some_iff.mp hget)
    obtain ⟨c, hc⟩ := Option.isSome_iff_exists.mp hread
    exact ⟨c, card?_eq_some.mpr ⟨row, hget, hcheck, toOption_eq_some.mp hc⟩⟩

instance (t : Tables) : Decidable (Legible t) := decidable_of_iff' _ legible_iff

theorem get?_insert_cases {cards : SortedMap CardId CardRow} {id' : CardId} {row' : CardRow}
    (hget : (cards.insert id row).get? id' = some row') :
    (id' = id ∧ row = row') ∨ (id' ≠ id ∧ cards.get? id' = some row') := by
  simpa [eq_comm] using SortedMap.get?_insert_eq_some_iff.mp hget

/-! ## What writes keep -/

namespace Constrained

variable (h : Constrained t)

include h

/-- A row takes its place if its identity is no other card's and what it refers to is there. -/
theorem putRow
    (alone : ∀ id' row', t.cards.get? id' = some row' → row'.noteId = row.noteId →
      row'.templateName = row.templateName → row'.ordinal = row.ordinal → id' = id)
    (noted : t.notes.contains row.noteId = true) (housed : t.decks.contains row.deckId = true) :
    Constrained { t with cards := t.cards.insert id row } := by
  refine ⟨?_, ?_, ?_, h.deckNames, ?_⟩
  · intro id₁ row₁ id₂ row₂ hget₁ hget₂ hn hname hordinal
    rcases get?_insert_cases hget₁ with ⟨hid₁, rfl⟩ | ⟨-, hold₁⟩ <;>
      rcases get?_insert_cases hget₂ with ⟨hid₂, rfl⟩ | ⟨-, hold₂⟩
    · exact hid₁.trans hid₂.symm
    · exact hid₁.trans (alone id₂ row₂ hold₂ hn.symm hname.symm hordinal.symm).symm
    · exact (alone id₁ row₁ hold₁ hn hname hordinal).trans hid₂.symm
    · exact h.single id₁ row₁ id₂ row₂ hold₁ hold₂ hn hname hordinal
  · intro id' row' hget
    rcases get?_insert_cases hget with ⟨-, rfl⟩ | ⟨-, hget⟩
    · exact noted
    · exact h.noted id' row' hget
  · intro id' row' hget
    rcases get?_insert_cases hget with ⟨-, rfl⟩ | ⟨-, hget⟩
    · exact housed
    · exact h.housed id' row' hget
  · exact fun review hreview => SortedMap.contains_insert.mpr (Or.inr (h.reviewed review hreview))

theorem insertCard (hdone : insertCard c t = .ok () t') : Constrained t' := by
  obtain ⟨-, htwin, noted, housed, rfl⟩ := insertCard_eq_ok.mp hdone
  exact h.putRow (hasTwin_eq_false.mp htwin) noted housed

theorem updateCard (hdone : updateCard c t = .ok () t') : Constrained t' := by
  obtain ⟨row, hget, housed, rfl⟩ := updateCard_eq_ok.mp hdone
  refine h.putRow ?_ (h.noted c.id row hget) housed
  -- the card keeps its identity, which is no other card's
  intro id' row' hget' hn hname hordinal
  exact h.single id' row' c.id row hget' hget hn hname hordinal

theorem deleteCard (hdone : deleteCard id t = .ok () t') : Constrained t' := by
  obtain ⟨-, rfl⟩ := deleteCard_eq_ok.mp hdone
  have hold : ∀ {id' row'}, (t.cards.erase id).get? id' = some row' →
      t.cards.get? id' = some row' := fun hget => (SortedMap.get?_erase_eq_some_iff.mp hget).2
  refine ⟨?_, fun id' row' hget => h.noted id' row' (hold hget),
    fun id' row' hget => h.housed id' row' (hold hget), h.deckNames, ?_⟩
  · exact fun id₁ row₁ id₂ row₂ hget₁ hget₂ => h.single id₁ row₁ id₂ row₂ (hold hget₁) (hold hget₂)
  · -- the reviews of the card go with it
    intro review hreview
    obtain ⟨hreview, hne⟩ := List.mem_filter.mp hreview
    exact SortedMap.contains_erase.mpr ⟨bne_iff_ne.mp hne, h.reviewed review hreview⟩

/-- Notes may come and change, as long as none goes. -/
theorem withNotes {notes : SortedMap NoteId NoteRow}
    (kept : ∀ n, t.notes.contains n = true → notes.contains n = true) :
    Constrained { t with notes } :=
  ⟨h.single, fun id row hget => kept _ (h.noted id row hget), h.housed, h.deckNames, h.reviewed⟩

/-- A note that comes or changes breaks no constraint. -/
theorem putNote (note : Note) (row : NoteRow) :
    Constrained { t with notes := t.notes.insert note.id row } :=
  h.withNotes fun _ hn => SortedMap.contains_insert.mpr (Or.inr hn)

theorem insertDeck {name : String} {deck : Deck} (hdone : insertDeck name t = .ok deck t') :
    Constrained t' := by
  obtain ⟨hfresh, -, rfl⟩ := insertDeck_eq_ok.mp hdone
  have habsent : ∀ id, t.decks.get? id ≠ some name := by
    intro id hget
    have hmem : name ∈ t.decks.values := SortedMap.mem_values_iff.mpr ⟨id, hget⟩
    rw [List.contains_iff_mem.mpr hmem] at hfresh
    cases hfresh
  refine ⟨h.single, h.noted, ?_, ?_, h.reviewed⟩
  · exact fun id row hget => SortedMap.contains_insert.mpr (Or.inr (h.housed id row hget))
  · intro id id' name' hget hget'
    rcases SortedMap.get?_insert_eq_some_iff.mp hget with ⟨rfl, rfl⟩ | ⟨-, hget⟩ <;>
      rcases SortedMap.get?_insert_eq_some_iff.mp hget' with ⟨rfl, heq⟩ | ⟨-, hget'⟩
    · rfl
    · exact absurd hget' (habsent id')
    · exact absurd (heq ▸ hget) (habsent id)
    · exact h.deckNames id id' name' hget hget'

theorem insertReview {r : Review} (hdone : insertReview id r t = .ok () t') : Constrained t' := by
  obtain ⟨-, hcontains, rfl⟩ := insertReview_eq_ok.mp hdone
  refine ⟨h.single, h.noted, h.housed, h.deckNames, ?_⟩
  intro review hreview
  rcases List.mem_append.mp hreview with hreview | hreview
  · exact h.reviewed review hreview
  · obtain rfl := List.mem_singleton.mp hreview
    exact hcontains

end Constrained

/-- **Each write keeps the constraints.** -/
theorem keepsWrites_constrained : KeepsWrites (fun _ => True) Constrained where
  writeNoteType _ _ h := ⟨h.single, h.noted, h.housed, h.deckNames, h.reviewed⟩
  insertNote note := by
    refine keeps_of_atomic (atomic_insertNote note) fun t _ t' h hdone => ?_
    obtain ⟨-, rfl⟩ := insertNote_eq_ok.mp hdone
    exact h.putNote note _
  replaceNote note _ h := h.putNote note _
  updateNote note := by
    refine keeps_of_atomic (atomic_updateNoteRow note) fun t _ t' h hdone => ?_
    obtain ⟨_, -, rfl⟩ := updateNote_eq_ok.mp hdone
    exact h.putNote note _
  insertCard c _ := keeps_of_atomic (atomic_insertCard c) fun _ _ _ h => h.insertCard
  updateCard c _ := keeps_of_atomic (atomic_updateCard c) fun _ _ _ h => h.updateCard
  deleteCard id := keeps_of_atomic (atomic_deleteCard id) fun _ _ _ h => h.deleteCard
  insertReview id r := keeps_of_atomic (atomic_insertReview id r) fun _ _ _ h => h.insertReview
  insertDeck name := keeps_of_atomic (atomic_insertDeck name) fun _ _ _ h => h.insertDeck
  raiseUsn _ _ h := ⟨h.single, h.noted, h.housed, h.deckNames, h.reviewed⟩

theorem constrained_empty : Constrained {} where
  single _ _ _ _ h := nomatch h
  noted _ _ h := nomatch h
  housed _ _ h := nomatch h
  deckNames _ _ _ h := nomatch h
  reviewed _ h := nomatch h

/-- **The constraints hold** after any requests. -/
theorem constrained_afterAll (ops : List Operation) :
    Constrained (Operation.afterAll Tables.store ops {}) :=
  Operation.keeps_afterAll keepsWrites_constrained.store ops constrained_empty

/-! ## Cards that stay legible -/

/-- New cards of other notes leave the cards of a note legible. -/
theorem keeps_legibleNote_insertCard (other : c.noteId ≠ n) :
    Keeps (LegibleNote · n) (insertCard c) := by
  refine keeps_of_atomic (atomic_insertCard c) fun t _ t' h hdone id row hget hn => ?_
  obtain ⟨-, -, -, -, rfl⟩ := insertCard_eq_ok.mp hdone
  rcases get?_insert_cases hget with ⟨-, rfl⟩ | ⟨-, hget⟩
  · exact absurd hn other
  · exact h id row hget hn

/-- Changed cards stay legible if their states are finite. -/
theorem keeps_legibleNote_updateCard (finite : c.scheduling.Finite) :
    Keeps (LegibleNote · n) (updateCard c) := by
  refine keeps_of_atomic (atomic_updateCard c) fun t _ t' h hdone id row hget hn => ?_
  obtain ⟨old, hold, -, rfl⟩ := updateCard_eq_ok.mp hdone
  rcases get?_insert_cases hget with ⟨rfl, rfl⟩ | ⟨-, hget⟩
  · exact ⟨CardRow.check_eq_ok.mpr ⟨(CardRow.check_eq_ok.mp (h c.id old hold hn).1).1,
      (CardRow.check_eq_ok.mp (CardRow.check_of c)).2⟩, CardRow.exists_decode rfl finite⟩
  · exact h id row hget hn

theorem keeps_legibleNote_deleteCard (id : CardId) : Keeps (LegibleNote · n) (deleteCard id) := by
  refine keeps_of_atomic (atomic_deleteCard id) fun t _ t' h hdone id' row hget hn => ?_
  obtain ⟨-, rfl⟩ := deleteCard_eq_ok.mp hdone
  exact h id' row (SortedMap.get?_erase_eq_some_iff.mp hget).2 hn

end Tables

end Flashcard
