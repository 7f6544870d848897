import Flashcard.Collection.Cards
import Flashcard.Store.Memory
import Mathlib.Algebra.BigOperators.Group.List.Basic
import Mathlib.Algebra.Ring.Nat

/-!
# The numbers of a deck

The numbers of a deck are kept by one loop over its cards, that leaves a card early if it is suspended.
Each of them is the number of cards of one kind.

- `Tally`: the numbers that there are, and the cards that each counts.
- `numbers`: the numbers of given cards.
- `Divided`: the kinds of cards divide a deck.

## Main statements

- `divided_deckStats`: in every store the kinds of cards divide a deck.
- `deckStats_eq_numbers`, `Tally.of_numbers`: each number, counted.
- `countP_eq_sum_decks`: what is counted of all cards, deck by deck.
-/

namespace Flashcard

namespace Collection

variable {now : Timestamp}

/-- The numbers that there are for a deck. -/
inductive Tally where
  | total
  | inStatus (status : CardStatus)
  | suspended
  | due

namespace Tally

/-- The number itself. -/
def of : Tally → DeckStats → Nat
  | total => DeckStats.totalCards
  | inStatus .new => DeckStats.newCards
  | inStatus .learning => DeckStats.learningCards
  | inStatus .review => DeckStats.reviewCards
  | inStatus .relearning => DeckStats.relearningCards
  | suspended => DeckStats.suspendedCards
  | due => DeckStats.dueCards

/-- Whether the number counts a card. -/
def counts (now : Timestamp) : Tally → Card → Bool
  | total, _ => true
  | inStatus status, c => !c.suspended && c.scheduling.status == status
  | suspended, c => c.suspended
  | due, c => !c.suspended && c.scheduling.isDue now

variable {tally : Tally}

theorem of_count (stats : DeckStats) (c : Card) :
    tally.of (DeckStats.count now stats c) = tally.of stats + (tally.counts now c).toNat := by
  rcases tally with _ | ⟨_ | _ | _ | _⟩ | _ | _ <;> simp only [DeckStats.count, counts] <;>
    cases c.suspended <;> cases c.scheduling.status <;> cases c.scheduling.isDue now <;> rfl

theorem of_foldl_count (cards : List Card) (stats : DeckStats) :
    tally.of (cards.foldl (DeckStats.count now) stats) =
      tally.of stats + cards.countP (tally.counts now) := by
  induction cards generalizing stats with
  | nil => rfl
  | cons c rest ih =>
    rw [List.foldl_cons, ih, of_count, List.countP_cons]
    cases tally.counts now c with
    | false => rfl
    | true =>
      show tally.of stats + 1 + rest.countP _ = tally.of stats + (rest.countP _ + 1)
      omega

end Tally

/-- The numbers of cards, for a deck or for all of them. -/
def numbers (deck : Option DeckId) (now : Timestamp) (cards : List Card) : DeckStats :=
  cards.foldl (DeckStats.count now) { deckId := deck }

/-- **Each number of a deck** is a number of cards. -/
theorem Tally.of_numbers (tally : Tally) (deck : Option DeckId) (now : Timestamp)
    (cards : List Card) : tally.of (numbers deck now cards) = cards.countP (tally.counts now) := by
  have hnone : tally.of { deckId := deck } = 0 := by
    rcases tally with _ | ⟨_ | _ | _ | _⟩ | _ | _ <;> rfl
  rw [numbers, of_foldl_count, hnone, Nat.zero_add]

/-- Whether each card is in one status or suspended, and those that are due are not suspended. -/
structure Divided (stats : DeckStats) : Prop where
  total : stats.totalCards = stats.newCards + stats.learningCards + stats.reviewCards +
    stats.relearningCards + stats.suspendedCards
  due : stats.dueCards ≤ stats.totalCards - stats.suspendedCards

theorem Divided.count {stats : DeckStats} (h : Divided stats) (c : Card) :
    Divided (DeckStats.count now stats c) := by
  obtain ⟨htotal, hdue⟩ := h
  unfold DeckStats.count
  cases c.suspended <;> cases c.scheduling.status <;> cases c.scheduling.isDue now <;> constructor <;>
    dsimp <;> omega

theorem divided_numbers (deck : Option DeckId) (now : Timestamp) (cards : List Card) :
    Divided (numbers deck now cards) := by
  have hnone : Divided { deckId := deck } := ⟨rfl, Nat.le_refl 0⟩
  have hall : ∀ {stats}, Divided stats → Divided (cards.foldl (DeckStats.count now) stats) := by
    induction cards with
    | nil => exact fun h => h
    | cons c rest ih => exact fun h => ih (h.count c)
  exact hall hnone

variable {σ : Type} {store : Store σ} {s : σ} {deck : Option DeckId}

/-- If the deck is there and its cards can be read, then their numbers are answered. -/
theorem deckStats_eq_numbers {cards : List Card} (hdeck : checkDeck store deck s = .ok ())
    (hcards : store.cardsInDeck deck s = .ok cards) :
    deckStats store deck now s = .ok (numbers deck now cards) := by
  rw [deckStats, hdeck, hcards]
  rfl

/-- **The kinds of cards divide a deck**, in every store. -/
theorem divided_deckStats {stats : DeckStats} (h : deckStats store deck now s = .ok stats) :
    Divided stats := by
  cases hdeck : checkDeck store deck s with
  | error e =>
    rw [deckStats, hdeck] at h
    cases h
  | ok =>
    cases hcards : store.cardsInDeck deck s with
    | error e =>
      rw [deckStats, hdeck, hcards] at h
      cases h
    | ok cards =>
      rw [deckStats_eq_numbers hdeck hcards] at h
      cases h
      exact divided_numbers deck now cards

/-- **Deck by deck**: what is counted of cards is counted in the decks that they are in. -/
theorem countP_eq_sum_decks (p : Card → Bool) {ids : List DeckId} (nodup : ids.Nodup)
    {cards : List Card} (housed : ∀ c ∈ cards, c.deckId ∈ ids) :
    cards.countP p =
      (ids.map fun id => (cards.filter (Memory.inDeck (some id))).countP p).sum := by
  induction ids generalizing cards with
  | nil =>
    cases cards with
    | nil => rfl
    | cons c _ => exact absurd (housed c List.mem_cons_self) List.not_mem_nil
  | cons id ids ih =>
    -- the cards that are not in the first deck are in the others
    let left := cards.filter fun c => !Memory.inDeck (some id) c
    have hleft : ∀ c ∈ left, c.deckId ∈ ids := by
      intro c hc
      obtain ⟨hmem, hother⟩ := List.mem_filter.mp hc
      refine (List.mem_cons.mp (housed c hmem)).resolve_left fun heq => ?_
      rw [Memory.inDeck, heq, beq_self_eq_true] at hother
      cases hother
    have hsame : ∀ id' ∈ ids, left.filter (Memory.inDeck (some id')) =
        cards.filter (Memory.inDeck (some id')) := by
      intro id' hid'
      have hne : id' ≠ id := fun heq => (List.nodup_cons.mp nodup).1 (heq ▸ hid')
      rw [List.filter_filter]
      refine List.filter_congr fun c _ => ?_
      show (c.deckId == id' && !(c.deckId == id)) = (c.deckId == id')
      by_cases heq : c.deckId = id'
      · simp [heq, hne]
      · simp [heq]
    have hrest := ih (List.nodup_cons.mp nodup).2 hleft
    rw [List.map_congr_left fun id' hid' => congrArg (List.countP p) (hsame id' hid')] at hrest
    rw [List.map_cons, List.sum_cons, ← hrest]
    exact List.countP_eq_countP_filter_add cards p (Memory.inDeck (some id))

end Collection

end Flashcard
