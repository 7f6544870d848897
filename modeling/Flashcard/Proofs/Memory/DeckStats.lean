import Flashcard.Proofs.DueQueue
import Flashcard.Proofs.Memory.Filed
import Flashcard.Proofs.Steps

/-!
# The numbers of all decks

In memory the numbers of a deck can be asked for whenever the deck is there, and each card is in one
deck. So where the decks of all cards are there, the numbers of all cards are those of the decks
together.

- `Memory.FiledDecks`: decks are kept under their own ids.
- `Memory.deckStats_additive`: every store in memory.
-/

namespace Flashcard

namespace Memory

open Collection

variable {m : Memory}

/-- No call but the one that adds a deck has to do with decks. -/
theorem decks_call (call : Store.Call) (m : Memory) :
    (call.after store m).decks = m.decks ∨ ∃ name, call.after store m = m.addDeck name := by
  have checked : ∀ {α : Type} (update : Update Memory α) {check : Except StoreError Unit} {a : α}
      {after : Memory}, update m = m.checked check a after → after.decks = m.decks →
      (left update m).decks = m.decks := by
    intro α update check a after heq hafter
    rcases left_checked heq with hleft | hleft
    · rw [hleft]
    · rw [hleft, hafter]
  cases call with
  | createDeck name => exact .inr ⟨name, rfl⟩
  | saveNoteType _ | createCard _ | addReview _ _ | recordUsn _ => exact .inl rfl
  | createNote note => exact .inl (checked (store.createNote note) rfl rfl)
  | updateNote note => exact .inl (checked (store.updateNote note) rfl rfl)
  | updateCard c => exact .inl (checked _ (updateCard_eq c m) rfl)
  | deleteCard id => exact .inl (checked _ (deleteCard_eq id m) rfl)
  | applyPlan plan => exact .inl (checked _ (applyPlan_eq plan m) (decks_writePlan m plan))
  | applyNotePlan note plan => exact .inl (checked _ (applyNotePlan_eq note plan m) (decks_writeNote note plan m))
  | saveNoteTypeWithNotes nt notes =>
    exact .inl (checked _ (saveNoteTypeWithNotes_eq nt notes m) (decks_writeNoteType m nt notes))

/-- Each deck is kept under its own id. -/
def FiledDecks (m : Memory) : Prop := ∀ id deck, m.decks.get? id = some deck → deck.id = id

theorem FiledDecks.call (h : FiledDecks m) (call : Store.Call) : FiledDecks (call.after store m) := by
  rcases decks_call call m with heq | ⟨name, heq⟩
  · rwa [FiledDecks, heq]
  · intro id deck hget
    rw [heq] at hget
    rcases SortedMap.get?_insert_eq_some_iff.mp hget with ⟨rfl, rfl⟩ | ⟨-, hget⟩
    · rfl
    · exact h id deck hget

theorem filedDecks_made (acts : List Act) : FiledDecks (made acts) := by
  refine List.foldlRecOn acts _ (fun _ _ h => nomatch h) fun m filed act _ => ?_
  cases act with
  | failNote _ | spoilNote _ _ _ => exact filed
  | update call => exact filed.call call

/-- The numbers of a deck that is there, or of all cards. -/
theorem deckStats_store {deck : Option DeckId} (hdeck : HasDeck store m deck) (now : Timestamp) :
    deckStats store deck now m = .ok (numbers deck now (m.cards.values.filter (inDeck deck))) :=
  deckStats_eq_numbers hdeck.checkDeck rfl

/-- **The numbers of decks divide and add up**, in every store in memory in which the decks of all cards
are there. -/
theorem deckStats_additive (acts : List Act) (now : Timestamp)
    (housed : ∀ c ∈ (made acts).cards.values, (made acts).decks.contains c.deckId = true) :
    (∀ deck stats, deckStats store deck now (made acts) = .ok stats → Divided stats) ∧
      ∃ decks whole parts, store.decks (made acts) = .ok decks ∧
        deckStats store none now (made acts) = .ok whole ∧
        decks.mapM (fun d => deckStats store (some d.id) now (made acts)) = .ok parts ∧
        ∀ tally : Tally, tally.of whole = (parts.map tally.of).sum := by
  have filed := filedDecks_made acts
  generalize made acts = m at housed filed ⊢
  have hall : m.cards.values.filter (inDeck none) = m.cards.values := List.filter_true _
  have hnone : HasDeck store m none := fun _ h => nomatch h
  have hwhole := deckStats_store hnone now
  have hparts : ∀ d ∈ m.decks.values, deckStats store (some d.id) now m =
      .ok (numbers (some d.id) now (m.cards.values.filter (inDeck (some d.id)))) := by
    intro d hd
    obtain ⟨id, hget⟩ := SortedMap.mem_values_iff.mp hd
    obtain rfl := filed id d hget
    refine deckStats_store ?_ now
    rintro _ ⟨⟩
    exact ⟨d, congrArg Except.ok hget⟩
  refine ⟨fun _ _ => divided_deckStats, _, _, _, rfl, hwhole, mapM_eq_ok hparts, fun tally => ?_⟩
  have hhoused : ∀ c ∈ m.cards.values, c.deckId ∈ m.decks.keys := fun c hc =>
    SortedMap.mem_keys_iff_contains.mpr (housed c hc)
  rw [Tally.of_numbers, hall, countP_eq_sum_decks _ (SortedMap.nodup_keys _) hhoused,
    ← SortedMap.map_values_eq_keys filed, List.map_map, List.map_map]
  exact congrArg List.sum (List.map_congr_left fun d _ => (Tally.of_numbers ..).symm)

/-- A card of a deck, in some status, that is due from the beginning. -/
def spreadCard (id : CardId) (deckId : DeckId) (status : CardStatus) (suspended : Bool) : Card where
  id
  noteId := 1
  deckId
  templateName := "Card 1"
  ordinal := 0
  front := "F"
  back := "B"
  scheduling := { (Sm2.newCard {} ⟨0, 0⟩) with status }
  suspended
  usn := 0

/-- A collection with cards in two decks; in each of them one is suspended. -/
def spread : List Act :=
  [.update (.createDeck "Default"), .update (.createDeck "Extra")] ++
    [spreadCard 1 1 .new false, spreadCard 2 1 .review true, spreadCard 3 2 .relearning false,
      spreadCard 4 2 .new true, spreadCard 5 2 .learning false].map fun c => .update (.createCard c)

theorem deckStats_additive_spread :
    (∀ c ∈ (made spread).cards.values, (made spread).decks.contains c.deckId = true) ∧
      deckStats store none ⟨60, 0⟩ (made spread) = .ok ⟨none, 5, 1, 1, 0, 1, 2, 3⟩ ∧
      ∃ parts, [1, 2].mapM (fun id => deckStats store (some id) ⟨60, 0⟩ (made spread)) = .ok parts ∧
        ∀ tally : Tally, tally.of ⟨none, 5, 1, 1, 0, 1, 2, 3⟩ = (parts.map tally.of).sum := by
  have housed : ∀ c ∈ (made spread).cards.values, (made spread).decks.contains c.deckId = true := by
    decide +kernel
  have hdecks : store.decks (made spread) = .ok [⟨1, "Default"⟩, ⟨2, "Extra"⟩] := rfl
  have hwhole : deckStats store none ⟨60, 0⟩ (made spread) = .ok ⟨none, 5, 1, 1, 0, 1, 2, 3⟩ := by
    rfl
  obtain ⟨-, decks, whole, parts, hdecks', hwhole', hparts, hsums⟩ :=
    deckStats_additive spread ⟨60, 0⟩ housed
  cases hdecks.symm.trans hdecks'
  cases hwhole.symm.trans hwhole'
  exact ⟨housed, hwhole, parts, hparts, hsums⟩

end Memory

end Flashcard
