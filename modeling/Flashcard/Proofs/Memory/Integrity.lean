import Flashcard.Proofs.Memory.Intact
import Flashcard.Proofs.Memory.Origin

/-!
# Integrity of collections

In a collection that operations lead to, nothing refers to something that is not there, and nothing
is there twice. The store itself checks none of this. It holds as every operation takes free ids,
looks decks up, and removes the reviews of a card with the card; so a card under an id that was in
use before begins without reviews.

- `Memory.Integral`: what is true of such a collection.
- `Memory.Decked`: requests whose default decks are there.
- `Memory.Reviewed`, `Memory.Whole`: the invariants.
- `Memory.integral_afterAll`: integrity after all requests, and no reviews of cards that are new.
-/

namespace Flashcard

namespace Memory

open Collection

/-- Whether all that a collection refers to is there, and nothing is there twice. -/
structure Integral (m : Memory) : Prop where
  /-- Each card has its note. -/
  notes : ∀ c ∈ m.cards.values, ∃ note, store.note? c.noteId m = .ok (some note) ∧
    note.id = c.noteId
  /-- Each card has its deck. -/
  decks : ∀ c ∈ m.cards.values, ∃ deck, store.deck? c.deckId m = .ok (some deck) ∧
    deck.id = c.deckId
  /-- Each note has its type. -/
  types : ∀ stored ∈ m.notes.values, ∃ nt, store.noteType? (typeOf stored) m = .ok (some nt) ∧
    nt.name = typeOf stored
  /-- No two cards of a note have one identity. -/
  single : (m.cards.values.map fun c => (c.noteId, c.templateName, c.ordinal)).Nodup
  deckNames : (m.decks.values.map (·.name)).Nodup
  /-- Each review is one of a card. -/
  reviews : ∀ e ∈ m.reviews, ∃ c ∈ m.cards.values, c.id = e.1

/-- Whether the default decks that requests name are there when the requests are made. -/
def Decked : Memory → List Operation → Prop
  | _, [] => True
  | m, op :: rest =>
    (∀ id ∈ op.defaultDeck?, m.decks.contains id = true) ∧ Decked (op.after store m) rest

instance decidableDecked : ∀ m ops, Decidable (Decked m ops)
  | _, [] => inferInstanceAs (Decidable True)
  | m, op :: rest =>
    have := decidableDecked (op.after store m) rest
    inferInstanceAs (Decidable ((∀ id ∈ op.defaultDeck?, m.decks.contains id = true) ∧
      Decked (op.after store m) rest))

/-- Whether a card is new since a state: no card of that state is an earlier version of it. -/
def Created (m : Memory) (c' : Card) : Prop := ∀ c ∈ m.cards.values, ¬ c'.SameAs c

variable {op : Operation} {m m' : Memory} {c c' : Card}

/-! ## Reviews -/

/-- Reviews are kept of cards that are there. -/
def Reviewed (m : Memory) : Prop := ∀ e ∈ m.reviews, m.cards.contains e.1 = true

theorem reviewed_empty : Reviewed {} := nofun

theorem Reviewed.writePlan (h : Reviewed m) (keyed : m.Keyed) {n : NoteId}
    {drafts : List CardDraft} {plan : ReconcilePlan} (fit : m.IsFit n drafts plan)
    (hcards : m'.cards = (m.writePlan plan).cards)
    (hreviews : m'.reviews = (m.writePlan plan).reviews) : Reviewed m' := by
  intro e he
  rw [hreviews, reviews_writePlan] at he
  obtain ⟨he, hdel⟩ := List.mem_filter.mp he
  have hkey : e.1 ∈ m.cards.keys := SortedMap.mem_keys_iff_contains.mpr (h e he)
  rw [hcards]
  exact SortedMap.mem_keys_iff_contains.mp
    ((fit.mem_keys_writePlan keyed).mpr ⟨of_decide_eq_true hdel, Or.inl hkey⟩)

/-- Each change removes the reviews of the cards that it removes, and records those of cards that
are there only. -/
theorem Reviewed.change (hchange : Change op m m') (sound : Sound m) (h : Reviewed m) :
    Reviewed m' := by
  have keyed := sound.keyed
  cases hchange with
  | stockType _ _ | stockDeck _ | newDeck _ => exact h
  | @newNote scheduler new nt note _ _ _ _ note_eq =>
    have hid : note.id = Store.nextId m.notes := note_eq ▸ rfl
    have fit := isFit_fit (m.regenerator scheduler new.deck new.now) nt note m
    rw [hid, cardsOf_nextId sound, ← hid] at fit
    exact h.writePlan keyed fit (cards_writeNote ..).1 (cards_writeNote ..).2
  | noteChange _ _ _ _ =>
    exact h.writePlan keyed (isFit_fit _ _ _ m) (cards_writeNote ..).1 (cards_writeNote ..).2
  | edit _ _ =>
    rw [Reviewed, reviews_writeNoteType, cards_writeNoteType]
    exact h
  | editedCards refit | newCards refit =>
    cases refit
    exact h.writePlan keyed (isFit_fit _ _ _ m) rfl rfl
  | answer found _ =>
    intro e he
    refine SortedMap.contains_insert.mpr ?_
    rcases List.mem_append.mp he with he | he
    · exact Or.inr (h e he)
    · -- the review is recorded under the id of the card that was answered
      obtain rfl := List.mem_singleton.mp he
      exact Or.inl (keyed _ _ found).symm
  | flags _ => exact fun e he => SortedMap.contains_insert.mpr (Or.inr (h e he))
  | deletion _ =>
    intro e he
    obtain ⟨he, hne⟩ := List.mem_filter.mp he
    exact SortedMap.contains_erase.mpr ⟨of_decide_eq_true hne, h e he⟩

/-- An id above those of all cards has no reviews. -/
theorem Reviewed.reviewsOf_eq_nil (h : Reviewed m) (keyed : m.Keyed) {id : CardId}
    (above : ∀ c, m.Holds c → c.id < id) : m.reviewsOf id = [] := by
  refine List.map_eq_nil_iff.mpr (List.filter_eq_nil_iff.mpr fun e he heq => ?_)
  obtain ⟨c, hc⟩ := SortedMap.contains_iff.mp (h e he)
  have hlt := above c (holds_of_get? keyed hc)
  rw [keyed _ _ hc, beq_iff_eq.mp heq] at hlt
  exact Int.lt_irrefl _ hlt

/-! ## Decks -/

/-- What is true of every store that operations with default decks that are there lead to. -/
structure Whole (m : Memory) : Prop where
  intact : Intact m
  housed : ∀ c, m.Holds c → m.decks.contains c.deckId = true
  reviewed : Reviewed m

theorem whole_empty : Whole {} := ⟨intact_empty, (fun _ h => nomatch h), reviewed_empty⟩

theorem Whole.change (hchange : Change op m m')
    (given : ∀ id ∈ op.defaultDeck?, m.decks.contains id = true) (h : Whole m) : Whole m' := by
  have sound := h.intact.sound
  refine ⟨h.intact.change hchange, ?_, h.reviewed.change hchange sound⟩
  intro c' hc'
  refine contains_decks_change hchange ?_
  cases origin sound hchange hc' with
  | kept held same | answered _ held same => exact same.deckId_eq ▸ h.housed _ held
  | new _ _ _ _ deck => exact deck.contains h.housed given

theorem Whole.after (h : Whole m) (given : ∀ id ∈ op.defaultDeck?, m.decks.contains id = true) :
    Whole (op.after store m) := by
  have step : ∀ m₁ m₂, Change op m₁ m₂ →
      Whole m₁ ∧ (∀ id ∈ op.defaultDeck?, m₁.decks.contains id = true) →
        Whole m₂ ∧ ∀ id ∈ op.defaultDeck?, m₂.decks.contains id = true := by
    intro m₁ m₂ hchange ⟨h₁, given₁⟩
    exact ⟨h₁.change hchange given₁, fun id hid => contains_decks_change hchange (given₁ id hid)⟩
  exact (after_invariant step ⟨h, given⟩).1

theorem whole_afterAll {ops : List Operation} (h : Whole m) (decked : Decked m ops) :
    Whole (Operation.afterAll store ops m) := by
  induction ops generalizing m with
  | nil => exact h
  | cons op rest ih => exact ih (h.after decked.1) decked.2

theorem mem_values_iff_holds (keyed : m.Keyed) : c ∈ m.cards.values ↔ m.Holds c := by
  rw [SortedMap.mem_values_iff]
  exact ⟨fun ⟨_, h⟩ => holds_of_get? keyed h, fun h => ⟨c.id, h⟩⟩

theorem nodup_values_cards (keyed : m.Keyed) : m.cards.values.Nodup := by
  have hkeys := SortedMap.map_values_eq_keys keyed
  exact List.Nodup.of_map (·.id) (hkeys ▸ SortedMap.nodup_keys m.cards)

theorem nodup_values_decks (sound : Sound m) : m.decks.values.Nodup := by
  have hkeys := SortedMap.map_values_eq_keys sound.decks
  exact List.Nodup.of_map (·.id) (hkeys ▸ SortedMap.nodup_keys m.decks)

theorem Whole.integral (h : Whole m) : Integral m := by
  have sound := h.intact.sound
  have keyed := sound.keyed
  refine ⟨?_, ?_, ?_, ?_, ?_, ?_⟩
  · intro c hc
    obtain ⟨stored, hstored⟩ := SortedMap.contains_iff.mp
      (sound.owned c ((mem_values_iff_holds keyed).mp hc))
    obtain ⟨note, nt, rfl, -⟩ := h.intact.typed _ _ hstored
    exact ⟨note, note?_eq_ok_some.mpr hstored, sound.notes _ _ hstored⟩
  · intro c hc
    obtain ⟨deck, hdeck⟩ := SortedMap.contains_iff.mp
      (h.housed c ((mem_values_iff_holds keyed).mp hc))
    exact ⟨deck, congrArg Except.ok hdeck, sound.decks _ _ hdeck⟩
  · intro stored hstored
    obtain ⟨id, hget⟩ := SortedMap.mem_values_iff.mp hstored
    obtain ⟨note, nt, rfl, hnt⟩ := h.intact.typed _ _ hget
    exact ⟨nt, congrArg Except.ok hnt, (sound.types _ _ hnt).1⟩
  · refine List.Nodup.map_on ?_ (nodup_values_cards keyed)
    intro c hc c' hc' heq
    obtain ⟨hnote, hname, hordinal⟩ := Prod.mk.inj heq |>.imp_right Prod.mk.inj
    exact sound.single c c' ((mem_values_iff_holds keyed).mp hc)
      ((mem_values_iff_holds keyed).mp hc') hnote (CardIdentity.mk.injEq .. ▸ ⟨hname, hordinal⟩)
  · exact List.Nodup.map_on sound.deckNames (nodup_values_decks sound)
  · intro e he
    obtain ⟨c, hc⟩ := SortedMap.contains_iff.mp (h.reviewed e he)
    exact ⟨c, SortedMap.mem_values_iff.mpr ⟨_, hc⟩, keyed _ _ hc⟩

/-! ## New cards -/

/-- A card of `m'`, which an operation leads to from `m`, is a later version of a card of `m`, or it
has no reviews and was not answered either. -/
def Unreviewed (op : Operation) (m m' : Memory) (c' : Card) : Prop :=
  (∃ c, m.Holds c ∧ c'.SameAs c) ∨
    m'.reviewsOf c'.id = [] ∧ ∀ scheduler answer, op ≠ .answerCard scheduler answer

theorem Unreviewed.change {m₀ : Memory} (hchange : Change op m m') (sound : Sound m)
    (reviewed : Reviewed m) (h : ∀ c, m.Holds c → Unreviewed op m₀ m c) (hc' : m'.Holds c') :
    Unreviewed op m₀ m' c' := by
  cases origin sound hchange hc' with
  | @kept c held same _ reviews_eq =>
    rcases h c held with ⟨c₀, hc₀, hsame⟩ | ⟨hnil, hop⟩
    · exact Or.inl ⟨c₀, hc₀, same.trans hsame⟩
    · exact Or.inr ⟨reviews_eq.trans hnil, hop⟩
  | @answered _ _ c _ op_eq held same _ _ =>
    -- an operation that is an answer makes no cards, so this one was there
    rcases h c held with ⟨c₀, hc₀, hsame⟩ | ⟨-, hop⟩
    · exact Or.inl ⟨c₀, hc₀, same.trans hsame⟩
    · exact absurd op_eq (hop _ _)
  | new _ no_answer above _ _ reviews_eq =>
    exact Or.inr ⟨reviews_eq.trans (reviewed.reviewsOf_eq_nil sound.keyed above), no_answer⟩

/-- A card that is new since before an operation has no reviews. -/
theorem reviewsOf_created (sound : Sound m) (reviewed : Reviewed m)
    (hc' : (op.after store m).Holds c') (hnew : Created m c') :
    (op.after store m).reviewsOf c'.id = [] := by
  have step : ∀ m₁ m₂, Change op m₁ m₂ →
      (Sound m₁ ∧ Reviewed m₁ ∧ ∀ c, m₁.Holds c → Unreviewed op m m₁ c) →
        Sound m₂ ∧ Reviewed m₂ ∧ ∀ c, m₂.Holds c → Unreviewed op m m₂ c := by
    intro m₁ m₂ hchange ⟨sound₁, reviewed₁, h₁⟩
    exact ⟨sound₁.change hchange, reviewed₁.change hchange sound₁,
      fun c hc => .change hchange sound₁ reviewed₁ h₁ hc⟩
  have hall := after_invariant (m := m) step
    ⟨sound, reviewed, fun c hc => Or.inl ⟨c, hc, .refl c⟩⟩
  rcases hall.2.2 c' hc' with ⟨c, hc, hsame⟩ | ⟨hnil, -⟩
  · exact absurd hsame (hnew c ((mem_values_iff_holds sound.keyed).mpr hc))
  · exact hnil

/-! ## Every run of operations -/

/-- **Collections have integrity** after all requests whose default decks are there, and whatever is
asked next, the cards that it makes have no reviews. -/
theorem integral_afterAll (ops : List Operation) (decked : Decked {} ops) :
    Integral (Operation.afterAll store ops {}) ∧
      ∀ op : Operation, ∀ c ∈ (op.after store (Operation.afterAll store ops {})).cards.values,
        Created (Operation.afterAll store ops {}) c →
          store.reviews c.id (op.after store (Operation.afterAll store ops {})) = .ok [] := by
  have whole := whole_afterAll whole_empty decked
  refine ⟨whole.integral, ?_⟩
  intro op c hc hnew
  have sound := whole.intact.sound
  have hholds := (mem_values_iff_holds (sound.after op).keyed).mp hc
  exact congrArg Except.ok (reviewsOf_created sound whole.reviewed hholds hnew)

/-- A note that was changed, and whose card was marked and then deleted. -/
def cardless : List Operation :=
  [.seed "Default",
    .addNote {} ⟨"Basic", 1, .ofList [("Front", "F"), ("Back", "B")], [], ⟨0, 0⟩⟩,
    .updateNote {} ⟨1, .ofList [("Back", "C")], none, 1, ⟨60, 0⟩⟩,
    .updateCardFlags 1 { flag := some 3 },
    .deleteCards [1]]

/-- A change of the note makes its card anew, under the id of the old one and without reviews. -/
theorem integral_afterAll_cardless :
    Decked {} cardless ∧ Integral (Operation.afterAll store cardless {}) ∧
      let op : Operation := .updateNote {} ⟨1, .ofList [("Front", "G")], none, 1, ⟨90, 0⟩⟩
      ∃ c ∈ (op.after store (Operation.afterAll store cardless {})).cards.values,
        c.id = 1 ∧
          store.reviews c.id (op.after store (Operation.afterAll store cardless {})) = .ok [] := by
  have decked : Decked {} cardless := by decide +kernel
  obtain ⟨hintegral, hreviews⟩ := integral_afterAll cardless decked
  have hnew : ∀ c, Created (Operation.afterAll store cardless {}) c := by
    have hnone : (Operation.afterAll store cardless {}).cards.values = [] := by decide +kernel
    intro c c₀ hc₀
    rw [hnone] at hc₀
    cases hc₀
  refine ⟨decked, hintegral, ?_⟩
  intro op
  have hmem := List.head_mem (l := (op.after store
    (Operation.afterAll store cardless {})).cards.values) (by decide +kernel)
  exact ⟨_, hmem, by decide +kernel, hreviews op _ hmem (hnew _)⟩

end Memory

end Flashcard
