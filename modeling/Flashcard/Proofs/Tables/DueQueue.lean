import Flashcard.Proofs.Command.Invariant
import Flashcard.Proofs.DueQueue
import Flashcard.Proofs.Tables.ReadBack
import Flashcard.Proofs.Tables.Reading
import Mathlib.Data.Set.List

/-!
# The queue of due cards in tables

A row of a card has its due date twice: in the scheduling state, and in a column in whole
milliseconds. The queue is made from the column, and the numbers of a deck from the states. The two
dates of a row go together in every collection that calls lead to. So, where the states can be read, a
queue is what it has to be with instants compared by their milliseconds, and it fits what is due at the
end of the millisecond in which it is asked for.

- `Timestamp.millisAtMost`, `Timestamp.endOfMilli`: the comparison by milliseconds, and the instant up
  to which it reaches.
- `Tables.HoldsCards`: the rows of cards are the rows of some cards. `Tables.FiniteIn`: the states of
  the cards of a deck are finite.

## Main statements

- `Tables.holdsCards_afterCalls`: in all collections that calls lead to, rows are those of cards.
- `Tables.finiteIn_afterCalls`: calls that write finite states leave such states.
- `Tables.HoldsCards.answers`: the queues and the numbers that such rows give.
- `Collection.due_cards_agree`: queues and numbers, in memory and in tables.
-/

namespace Flashcard

/-! ## Instants by their milliseconds -/

namespace Timestamp

variable {t u : Timestamp}

/-- Whether one instant is no later than another by their whole milliseconds. -/
def millisAtMost (t u : Timestamp) : Bool := t.millis ≤ u.millis

/-- The last instant of the millisecond that an instant is in. -/
def endOfMilli (t : Timestamp) : Timestamp :=
  ⟨t.second, t.nano / 1000000 * 1000000 + 999999⟩

/-- Outside leap seconds, what is no later by milliseconds is no later than the end of the
millisecond. -/
theorem millisAtMost_eq (ht : ¬ t.InLeapSecond) (hu : ¬ u.InLeapSecond) :
    t.millisAtMost u = t.isAtMost u.endOfMilli := by
  have ht : t.nano < 1000000000 := Nat.not_le.mp ht
  have hu : u.nano < 1000000000 := Nat.not_le.mp hu
  rw [Bool.eq_iff_iff, isAtMost_iff, millisAtMost, decide_eq_true_eq, millis, millis, endOfMilli]
  dsimp only
  omega

/-- For instants without a part below a millisecond the comparison by milliseconds is exact. -/
theorem Counted.millisAtMost_eq (ht : t.Counted) (hu : ¬ u.InLeapSecond) :
    t.millisAtMost u = t.isAtMost u := by
  obtain ⟨hnano, hlt⟩ := ht.nano_eq
  have hu : u.nano < 1000000000 := Nat.not_le.mp hu
  rw [Bool.eq_iff_iff, isAtMost_iff, millisAtMost, decide_eq_true_eq, millis, millis]
  omega

end Timestamp

namespace Tables

open Collection

/-! ## Rows of cards -/

/-- What the writes of single cards keep of their rows, all writes keep. -/
theorem keepsWrites_of_cards {allowed : Card → Prop} {p : SortedMap CardId CardRow → Prop}
    (insert : ∀ cards c, allowed c → p cards → p (cards.insert c.id (.of c)))
    (update : ∀ cards c row, allowed c → p cards → cards.get? c.id = some row →
      p (cards.insert c.id { CardRow.of c with
        noteId := row.noteId, templateName := row.templateName, ordinal := row.ordinal }))
    (erase : ∀ cards id, p cards → p (cards.erase id)) : KeepsWrites allowed fun t => p t.cards := by
  have same : ∀ {α : Type} {work : Update Tables α}, (∀ t, (left work t).cards = t.cards) →
      Keeps (fun t => p t.cards) work := by
    intro α work hsame t h
    show p (left work t).cards
    rw [hsame t]
    exact h
  constructor
  case insertCard =>
    refine fun c hc => keeps_of_atomic (atomic_insertCard c) fun t _ t' h hdone => ?_
    obtain ⟨-, -, -, -, rfl⟩ := insertCard_eq_ok.mp hdone
    exact insert t.cards c hc h
  case updateCard =>
    refine fun c hc => keeps_of_atomic (atomic_updateCard c) fun t _ t' h hdone => ?_
    obtain ⟨row, hget, -, rfl⟩ := updateCard_eq_ok.mp hdone
    exact update t.cards c row hc h hget
  case deleteCard =>
    refine fun id => keeps_of_atomic (atomic_deleteCard id) fun t _ t' h hdone => ?_
    obtain ⟨-, rfl⟩ := deleteCard_eq_ok.mp hdone
    exact erase t.cards id h
  case writeNoteType => exact fun _ => same fun _ => rfl
  case replaceNote => exact fun _ => same fun _ => rfl
  case raiseUsn => exact fun _ => same fun _ => rfl
  case insertNote => exact fun _ => same fun _ => by unfold left insertNote; split <;> rfl
  case updateNote => exact fun _ => same fun _ => by unfold left updateNote; split <;> rfl
  case insertDeck => exact fun _ => same fun _ => by unfold left insertDeck; split <;> rfl
  case insertReview =>
    refine fun _ _ => same fun _ => ?_
    unfold left insertReview
    split
    · rfl
    · split <;> rfl

/-- Whether the row of each card is one that is written for a card. -/
def HoldsCards (t : Tables) : Prop :=
  ∀ id row, t.cards.get? id = some row → ∃ c : Card, c.id = id ∧ row = .of c

/-- Whether the states that are kept for the cards of a deck, or of all decks, are finite. -/
def FiniteIn (deck : Option DeckId) (t : Tables) : Prop :=
  ∀ id row s, t.cards.get? id = some row → inDeck deck row = true → row.scheduling = .written s →
    s.Finite

variable {t t' : Tables} {id : CardId} {c : Card}

/-- **Each write leaves rows of cards only.** -/
theorem keepsWrites_holdsCards : KeepsWrites (fun _ => True) HoldsCards := by
  refine keepsWrites_of_cards (p := fun cards => HoldsCards { cards }) ?_ ?_ ?_
  · intro cards c _ h id row hget
    rcases SortedMap.get?_insert_eq_some_iff.mp hget with ⟨rfl, rfl⟩ | ⟨-, hget⟩
    · exact ⟨c, rfl, rfl⟩
    · exact h id row hget
  · intro cards c row _ h hold id row' hget
    rcases SortedMap.get?_insert_eq_some_iff.mp hget with ⟨rfl, rfl⟩ | ⟨-, hget⟩
    · -- the row is that of the new card with the note and identity of the old one
      obtain ⟨c₀, -, rfl⟩ := h _ row hold
      exact ⟨{ c with noteId := c₀.noteId, templateName := c₀.templateName, ordinal := c₀.ordinal },
        rfl, rfl⟩
    · exact h id row' hget
  · exact fun cards id h id' row hget => h id' row (SortedMap.get?_erase_eq_some_iff.mp hget).2

theorem holdsCards_afterCalls (calls : List Store.Call) : HoldsCards (store.afterCalls calls {}) :=
  keepsWrites_holdsCards.afterCalls calls (fun _ _ _ _ => trivial) fun _ _ h => nomatch h

/-- Each write of cards in finite states leaves finite states only. -/
theorem keepsWrites_finiteIn : KeepsWrites (·.scheduling.Finite) (FiniteIn none) := by
  refine keepsWrites_of_cards (p := fun cards => FiniteIn none { cards }) ?_ ?_ ?_
  · intro cards c hc h id row s hget hdeck hcell
    rcases SortedMap.get?_insert_eq_some_iff.mp hget with ⟨rfl, rfl⟩ | ⟨-, hget⟩
    · cases hcell
      exact hc
    · exact h id row s hget hdeck hcell
  · intro cards c row hc h _ id row' s hget hdeck hcell
    rcases SortedMap.get?_insert_eq_some_iff.mp hget with ⟨rfl, rfl⟩ | ⟨-, hget⟩
    · cases hcell
      exact hc
    · exact h id row' s hget hdeck hcell
  · exact fun cards id h id' row s hget => h id' row s (SortedMap.get?_erase_eq_some_iff.mp hget).2

/-- **Calls that write finite states leave finite states only.** -/
theorem finiteIn_afterCalls {calls : List Store.Call}
    (written : ∀ call ∈ calls, ∀ c ∈ call.cards, c.scheduling.Finite) (deck : Option DeckId) :
    (store.afterCalls calls {}).FiniteIn deck := by
  have hall := keepsWrites_finiteIn.afterCalls calls written fun _ _ _ h => nomatch h
  exact fun id row s hget _ => hall id row s hget rfl

/-- The row of a card, with its key. -/
def entryOf (c : Card) : CardId × CardRow := (c.id, .of c)

/-- The rows of cards are those of a list of cards. -/
theorem HoldsCards.entries_eq (h : HoldsCards t) :
    ∃ cards : List Card, t.cards.entries = cards.map entryOf := by
  have hrange : t.cards.entries ∈ Set.range (List.map entryOf) := by
    rw [Set.range_list_map]
    rintro ⟨id, row⟩ hmem
    obtain ⟨c, rfl, rfl⟩ := h id row (SortedMap.get?_eq_some_iff.mpr hmem)
    exact ⟨c, rfl⟩
  obtain ⟨cards, hcards⟩ := hrange
  exact ⟨cards, hcards.symm⟩

/-! ## Questions about rows -/

section Rows

variable {cards : List Card} {deck : Option DeckId} {now : Timestamp} {limit : Nat} {a b : Card}

/-- Where the states of a deck are finite, so are those of its cards. -/
theorem FiniteIn.finite (h : t.FiniteIn deck) (hrows : t.cards.entries = cards.map entryOf) :
    ∀ c ∈ cards.filter (Memory.inDeck deck), c.scheduling.Finite := by
  intro c hc
  obtain ⟨hmem, hdeck⟩ := List.mem_filter.mp hc
  have hrow : entryOf c ∈ t.cards.entries := hrows ▸ List.mem_map_of_mem hmem
  exact h c.id (.of c) c.scheduling (SortedMap.get?_eq_some_iff.mpr hrow) (inDeck_of deck c ▸ hdeck) rfl

theorem inDeck_stored (c : Card) : Memory.inDeck deck (CardRow.stored c) = Memory.inDeck deck c := by
  cases deck <;> rfl

/-- The rows of a deck are read as what they hold of its cards. -/
theorem cardsInDeck_eq (hrows : t.cards.entries = cards.map entryOf) (finite : t.FiniteIn deck) :
    cardsInDeck deck t = .ok ((cards.filter (Memory.inDeck deck)).map CardRow.stored) := by
  have hdeck : (fun row : CardId × CardRow => inDeck deck row.2) ∘ entryOf = Memory.inDeck deck :=
    funext fun c => inDeck_of deck c
  unfold cardsInDeck
  rw [hrows, List.filter_map, hdeck]
  exact CardRow.decodeAll_of_eq (finite.finite hrows)

/-- A row is due when its card is, by milliseconds. -/
theorem isDue_entry (c : Card) :
    isDue now.millis (entryOf c).2 = (!c.suspended && isDueBy Timestamp.millisAtMost now c) := by
  unfold isDue entryOf CardRow.of isDueBy
  cases c.scheduling.dueDate <;> rfl

theorem awaits_entry (c : Card) :
    (inDeck deck (entryOf c).2 && isDue now.millis (entryOf c).2) =
      Awaits Timestamp.millisAtMost deck now c := by
  rw [isDue_entry, Awaits, Bool.and_assoc]
  exact congrArg (· && _) (inDeck_of deck c)

/-- Rows are ordered by the column for the due date and then by id. -/
theorem dueBefore_iff (a b : CardId × CardRow) :
    dueBefore a b = true ↔ InOrder (· ≤ ·) (a.2.due.getD 0, a.1) (b.2.due.getD 0, b.1) := by
  have hcases : ∀ x y i j : Int, (x < y ∨ x = y ∧ i ≤ j) ↔ x ≤ y ∧ (y ≤ x → i ≤ j) := by omega
  simp only [dueBefore, Bool.or_eq_true, Bool.and_eq_true, decide_eq_true_eq, beq_iff_eq]
  exact hcases _ _ _ _

/-- Whether the row of one card comes no later than that of another. -/
def rowBefore (a b : Card) : Bool := dueBefore (entryOf a) (entryOf b)

theorem rowBefore_iff {x y : Timestamp} (hx : a.scheduling.dueDate = some x)
    (hy : b.scheduling.dueDate = some y) :
    rowBefore a b = true ↔ InOrder (Timestamp.millisAtMost · ·) (x, a.id) (y, b.id) := by
  rw [rowBefore, dueBefore_iff]
  simp only [InOrder, entryOf, CardRow.of, hx, hy, Option.map_some, Option.getD_some,
    Timestamp.millisAtMost, decide_eq_true_eq]

theorem rowBefore_total (a b : Card) : (rowBefore a b || rowBefore b a) = true := by
  rw [Bool.or_eq_true, rowBefore, rowBefore, dueBefore_iff, dueBefore_iff]
  exact InOrder.total Int.le_total _ _

theorem rowBefore_trans (a b c : Card) (hab : rowBefore a b = true) (hbc : rowBefore b c = true) :
    rowBefore a c = true := by
  rw [rowBefore, dueBefore_iff] at *
  exact hab.trans Int.le_trans hbc

/-- **The queue of rows of cards** is made of these cards, by milliseconds. -/
theorem dueCards_eq (hrows : t.cards.entries = cards.map entryOf) (finite : t.FiniteIn deck)
    (now : Timestamp) (limit : Nat) :
    dueCards deck now limit t =
      .ok ((((cards.filter (Awaits Timestamp.millisAtMost deck now)).mergeSort rowBefore).map
        CardRow.stored).take limit) := by
  have hfilter : t.cards.entries.filter (fun row => inDeck deck row.2 && isDue now.millis row.2) =
      (cards.filter (Awaits Timestamp.millisAtMost deck now)).map entryOf := by
    rw [hrows, List.filter_map]
    exact congrArg _ (List.filter_congr fun c _ => awaits_entry c)
  unfold dueCards
  dsimp only
  rw [hfilter, ← List.map_mergeSort (r := rowBefore) (f := entryOf) fun _ _ _ _ => rfl,
    ← List.map_take, ← List.map_take]
  refine CardRow.decodeAll_of_eq fun c hc => finite.finite hrows c ?_
  obtain ⟨hmem, hawaits⟩ := List.mem_filter.mp
    ((List.mergeSort_perm ..).mem_iff.mp (List.mem_of_mem_take hc))
  exact List.mem_filter.mpr ⟨hmem, (awaits_iff.mp hawaits).1⟩

/-- **In tables queues are right by milliseconds**, and the numbers of a deck by exact dates, where the
states of the deck are finite. -/
theorem HoldsCards.answers (h : HoldsCards t) (finite : t.FiniteIn deck) (hdeck : HasDeck store t deck) :
    ∃ all, store.cardsInDeck deck t = .ok all ∧
      (∀ now, ∃ stats, deckStats store deck now t = .ok stats ∧
        stats.dueCards = all.countP (Awaits Timestamp.isAtMost deck now)) ∧
      ∀ now limit, ∃ queue, Collection.dueCards store deck now limit t = .ok queue ∧
        DueQueue Timestamp.millisAtMost deck now limit all queue := by
  obtain ⟨cards, hrows⟩ := h.entries_eq
  let all := (cards.filter (Memory.inDeck deck)).map CardRow.stored
  have hcards : store.cardsInDeck deck t = .ok all := cardsInDeck_eq hrows finite
  have hall : ∀ c ∈ all, Memory.inDeck deck c = true := by
    intro _ hmem
    obtain ⟨c, hc, rfl⟩ := List.mem_map.mp hmem
    exact (inDeck_stored c).trans (List.mem_filter.mp hc).2
  refine ⟨all, hcards, fun now => deckStats_eq_ok hdeck.checkDeck hcards hall, fun now limit => ?_⟩
  let due := cards.filter (Awaits Timestamp.millisAtMost deck now)
  have hsorted : (due.mergeSort rowBefore).Pairwise (Before Timestamp.millisAtMost) :=
    pairwise_before_mergeSort (fun c hc => (List.mem_filter.mp hc).2) rowBefore_trans rowBefore_total
      fun hx hy => (rowBefore_iff hx hy).mp
  -- what a row holds of a card is due when the card is
  have hdue : all.filter (Awaits Timestamp.millisAtMost deck now) = due.map CardRow.stored := by
    rw [List.filter_map, List.filter_filter]
    refine congrArg _ (List.filter_congr fun c _ => ?_)
    have hstored : Awaits Timestamp.millisAtMost deck now (CardRow.stored c) =
        Awaits Timestamp.millisAtMost deck now c := by
      rw [Awaits, Awaits, inDeck_stored]
      rfl
    rw [Function.comp_apply, hstored, Awaits]
    cases Memory.inDeck deck c <;> simp
  refine ⟨((due.mergeSort rowBefore).map CardRow.stored).take limit, ?_, ?_⟩
  · rw [Collection.dueCards, hdeck.checkDeck]
    show asked (dueCards deck now limit t) = _
    rw [dueCards_eq hrows finite]
    rfl
  · refine .of_sorted ?_ (List.pairwise_map.mpr hsorted)
    rw [hdue]
    exact (List.mergeSort_perm due rowBefore).map _

end Rows

end Tables

namespace Collection

/-- **The queue of due cards and the numbers of a deck agree.** In memory, in every state and at every
time, as many cards are returned as the numbers say are due, up to the limit; these are in the deck,
not suspended and due; and they are the first ones by due date and id.

In tables, in every state that calls lead to and in which the states of the deck are finite, the queue
is one by the whole milliseconds of instants. So, outside leap seconds, it fits what is due at the end of the millisecond; and if the due dates have
no part below a millisecond, all agrees as in memory. -/
theorem due_cards_agree :
    (∀ (m : Memory) (deck : Option DeckId) (now : Timestamp) (limit : Nat),
      HasDeck Memory.store m deck →
      ∃ all stats queue, Asked Memory.store m deck now limit all stats queue ∧
        Agrees deck now limit all stats queue) ∧
    (∀ (calls : List Store.Call) (deck : Option DeckId) (now : Timestamp) (limit : Nat),
      HasDeck Tables.store (Tables.store.afterCalls calls {}) deck →
      (Tables.store.afterCalls calls {}).FiniteIn deck →
      ∃ all stats queue,
        Asked Tables.store (Tables.store.afterCalls calls {}) deck now limit all stats queue ∧
        DueQueue Timestamp.millisAtMost deck now limit all queue ∧
        (¬ now.InLeapSecond → DueDates (¬ ·.InLeapSecond) deck all →
          ∃ stats', deckStats Tables.store deck now.endOfMilli (Tables.store.afterCalls calls {}) =
              .ok stats' ∧
            Fits deck now.endOfMilli limit stats' queue) ∧
        (¬ now.InLeapSecond → DueDates Timestamp.Counted deck all →
          Agrees deck now limit all stats queue)) := by
  refine ⟨fun m deck now limit hdeck => m.agrees now limit hdeck, ?_⟩
  intro calls deck now limit hdeck finite
  obtain ⟨all, hall, hnumbers, hqueues⟩ := (Tables.holdsCards_afterCalls calls).answers finite hdeck
  obtain ⟨stats, hstats, hcount⟩ := hnumbers now
  obtain ⟨stats', hstats', hcount'⟩ := hnumbers now.endOfMilli
  obtain ⟨queue, hasked, hqueue⟩ := hqueues now limit
  refine ⟨all, stats, queue, ⟨hall, hstats, hasked⟩, hqueue, ?_, ?_⟩
  · intro hnow hdates
    refine ⟨stats', hstats', hqueue.fits (fun c hc hdeck hsuspended x hx => ?_) hcount'⟩
    exact Timestamp.millisAtMost_eq (hdates c hc hdeck hsuspended x hx) hnow
  · intro hnow hdates
    have hexact : DueQueue Timestamp.isAtMost deck now limit all queue := by
      refine hqueue.congr ?_ ?_
      · intro c hc hdeck hsuspended x hx
        exact (hdates c hc hdeck hsuspended x hx).millisAtMost_eq hnow
      · intro a ha hdeck hsuspended x hx b hb hdeck' hsuspended' y hy
        exact (hdates a ha hdeck hsuspended x hx).millisAtMost_eq
          (hdates b hb hdeck' hsuspended' y hy).ordinary
    exact hexact.agrees hcount

/-! ## A note with cards -/

open Tables

/-- A card of a number that is due at an instant. -/
def cardDue (id : CardId) (ordinal : UInt32) (due : Timestamp) : Card :=
  { filedCard with id, ordinal, scheduling := { filedCard.scheduling with dueDate := some due } }

/-- The calls that file a deck, a note, and cards of the note in the deck. -/
def filing (cards : List Card) : List Store.Call :=
  [.createDeck "Default", .createNote (dated ⟨60, 0⟩)] ++ cards.map .createCard

/-- Three cards, of which the first two are due at one time. -/
def threeCards : List Card := [cardDue 2 1 ⟨60, 0⟩, cardDue 1 2 ⟨60, 0⟩, cardDue 3 3 ⟨90, 5000000⟩]

/-- In both stores queue and numbers agree on these cards, in tables also at the end of the
millisecond. -/
theorem due_cards_agree_threeCards :
    (∃ all stats queue, Asked Memory.store (Memory.store.afterCalls (filing threeCards) {})
        (some 1) ⟨60, 1⟩ 1 all stats queue ∧ Agrees (some 1) ⟨60, 1⟩ 1 all stats queue) ∧
    (∃ all stats queue, Asked Tables.store (Tables.store.afterCalls (filing threeCards) {})
        (some 1) ⟨60, 1⟩ 1 all stats queue ∧ Agrees (some 1) ⟨60, 1⟩ 1 all stats queue ∧
      ∃ stats', deckStats Tables.store (some 1) ⟨60, 999999⟩
          (Tables.store.afterCalls (filing threeCards) {}) = .ok stats' ∧
        Fits (some 1) ⟨60, 999999⟩ 1 stats' queue) := by
  have hdeck : HasDeck Tables.store (Tables.store.afterCalls (filing threeCards) {}) (some 1) := by
    rintro id ⟨⟩
    exact ⟨⟨1, "Default"⟩, rfl⟩
  have hdeck' : HasDeck Memory.store (Memory.store.afterCalls (filing threeCards) {}) (some 1) := by
    rintro id ⟨⟩
    exact ⟨⟨1, "Default"⟩, rfl⟩
  refine ⟨due_cards_agree.1 _ _ _ _ hdeck', ?_⟩
  have hrows : (Tables.store.afterCalls (filing threeCards) {}).cards.entries =
      [cardDue 1 2 ⟨60, 0⟩, cardDue 2 1 ⟨60, 0⟩, cardDue 3 3 ⟨90, 5000000⟩].map entryOf := rfl
  have finite : (Tables.store.afterCalls (filing threeCards) {}).FiniteIn (some 1) :=
    finiteIn_afterCalls (by decide +kernel) (some 1)
  obtain ⟨all, stats, queue, hasked, -, hfits, hagrees⟩ :=
    due_cards_agree.2 _ _ ⟨60, 1⟩ 1 hdeck finite
  have hdates : DueDates Timestamp.Counted (some 1) all := by
    obtain rfl := Except.ok.inj (hasked.all.symm.trans (cardsInDeck_eq hrows finite))
    intro c hc _ _ x hx
    obtain ⟨c', hc', rfl⟩ := List.mem_map.mp hc
    have hc' := (List.mem_filter.mp hc').1
    simp only [List.mem_cons, List.not_mem_nil, or_false] at hc'
    rcases hc' with rfl | rfl | rfl
    all_goals
      cases hx
      exact ⟨by decide, by decide⟩
  refine ⟨all, stats, queue, hasked, hagrees (by decide) hdates, hfits (by decide) ?_⟩
  exact fun c hc hdeck hsuspended x hx => (hdates c hc hdeck hsuspended x hx).ordinary

/-- A card of an infinite interval. -/
def endless : Card :=
  { filedCard with scheduling := { filedCard.scheduling with intervalDays := 1.0 / 0.0 } }

/-- In tables queue and numbers do not always agree: a card that is due 0.9 milliseconds after a
second is returned 0.1 milliseconds after it, when it is not due yet. And a card of an infinite interval
is taken, but then there is neither a queue nor a number. -/
theorem due_cards_disagree :
    (¬ ∀ (calls : List Store.Call) (deck : Option DeckId) (now : Timestamp) (limit : Nat),
      HasDeck Tables.store (Tables.store.afterCalls calls {}) deck →
      (Tables.store.afterCalls calls {}).FiniteIn deck →
      ∃ all stats queue,
        Asked Tables.store (Tables.store.afterCalls calls {}) deck now limit all stats queue ∧
        Agrees deck now limit all stats queue) ∧
    let t := Tables.store.afterCalls (filing [endless]) {}
    let failure : CollectionError := .store (.corrupt (.document
      "invalid type: null, expected f64 at line 1 column 36"))
    t.cards.contains 1 = true ∧ Collection.dueCards Tables.store none ⟨60, 0⟩ 10 t = .error failure ∧
      deckStats Tables.store none ⟨60, 0⟩ t = .error failure := by
  refine ⟨fun hall => ?_, by decide +kernel, by decide +kernel, by decide +kernel⟩
  have finite : (Tables.store.afterCalls (filing [cardDue 1 1 ⟨60, 900000⟩]) {}).FiniteIn none :=
    finiteIn_afterCalls (by decide +kernel) none
  obtain ⟨all, stats, queue, hasked, hagrees⟩ :=
    hall (filing [cardDue 1 1 ⟨60, 900000⟩]) none ⟨60, 100000⟩ 10 nofun finite
  have hqueue : Collection.dueCards Tables.store none ⟨60, 100000⟩ 10
      (Tables.store.afterCalls (filing [cardDue 1 1 ⟨60, 900000⟩]) {}) =
        .ok [CardRow.stored (cardDue 1 1 ⟨60, 900000⟩)] := by decide +kernel
  obtain rfl := Except.ok.inj (hasked.queue.symm.trans hqueue)
  have hdue := (hagrees.due _ (List.mem_singleton_self _)).2.2
  exact absurd hdue (by decide)

end Collection

end Flashcard
