import Flashcard.Proofs.DeckStats
import Flashcard.Proofs.Time.Timestamp
import Mathlib.Data.List.Perm.Basic

/-!
# The queue of due cards

What is to be studied is asked for in two ways: as a queue of cards, and as a number among the numbers
of a deck. Both rest on the due dates of cards, and in memory these are compared exactly.

- `InOrder`: the order by date and then by id.
- `Awaits`, `Before`: the cards that a queue can hold, and their order, for any way to compare
  instants.
- `DueQueue`: what a queue has to be.
- `Asked`: what a store answers at one time. `Fits`, `Agrees`: when the answers fit together.

## Main statements

- `DueQueue.of_sorted`: what is taken off a sorted list is such a queue.
- `DueQueue.congr`: ways to compare that agree on the dates at hand make the same queues.
- `deckStats_eq_ok`: the number of due cards, counted.
- `Memory.agrees`: in memory the queue and the number always fit together.
-/

namespace Flashcard

/-! ## The order of a queue -/

section Order

variable {δ : Type} {le : δ → δ → Prop} {a b c : δ × Int}

/-- The order by date and then by id, where `le` compares dates. -/
def InOrder (le : δ → δ → Prop) (a b : δ × Int) : Prop := le a.1 b.1 ∧ (le b.1 a.1 → a.2 ≤ b.2)

theorem InOrder.total (total : ∀ x y, le x y ∨ le y x) (a b : δ × Int) :
    InOrder le a b ∨ InOrder le b a := by
  have hdates := total a.1 b.1
  have hids := Int.le_total a.2 b.2
  unfold InOrder
  tauto

theorem InOrder.trans (trans : ∀ {x y z}, le x y → le y z → le x z) (hab : InOrder le a b)
    (hbc : InOrder le b c) : InOrder le a c := by
  refine ⟨trans hab.1 hbc.1, fun hca => ?_⟩
  exact Int.le_trans (hab.2 (trans hbc.1 hca)) (hbc.2 (trans hca hab.1))

end Order

namespace Collection

variable {atMost atMost' : Timestamp → Timestamp → Bool} {deck : Option DeckId} {now now' : Timestamp}
  {limit : Nat} {all queue : List Card} {a b c : Card}

/-! ## Queues -/

/-- Whether a card is due, where `atMost` compares instants. -/
def isDueBy (atMost : Timestamp → Timestamp → Bool) (now : Timestamp) (c : Card) : Bool :=
  match c.scheduling.dueDate with
  | none => false
  | some due => atMost due now

/-- Whether a card can be in a queue: it is in the deck, not suspended, and due. -/
def Awaits (atMost : Timestamp → Timestamp → Bool) (deck : Option DeckId) (now : Timestamp)
    (c : Card) : Bool :=
  Memory.inDeck deck c && !c.suspended && isDueBy atMost now c

/-- Whether the due dates of the unsuspended cards of a deck have a property. -/
def DueDates (p : Timestamp → Prop) (deck : Option DeckId) (all : List Card) : Prop :=
  ∀ c ∈ all, Memory.inDeck deck c = true → c.suspended = false → ∀ x ∈ c.scheduling.dueDate, p x

/-- Whether one card is due no later than another; of cards that are due at one time the lower id
comes first. -/
def Before (atMost : Timestamp → Timestamp → Bool) (a b : Card) : Prop :=
  ∃ x y, a.scheduling.dueDate = some x ∧ b.scheduling.dueDate = some y ∧
    InOrder (atMost · ·) (x, a.id) (y, b.id)

/-- A queue for a deck or for all of the cards given, where `atMost` compares instants. -/
structure DueQueue (atMost : Timestamp → Timestamp → Bool) (deck : Option DeckId) (now : Timestamp)
    (limit : Nat) (all queue : List Card) : Prop where
  /-- As many cards are returned as there are, up to the limit. -/
  length : queue.length = min limit (all.countP (Awaits atMost deck now))
  ordered : queue.Pairwise (Before atMost)
  /-- Returned or not, each card that is due is there once, and none that is not returned comes before
  one that is. -/
  first : ∃ rest, (queue ++ rest).Perm (all.filter (Awaits atMost deck now)) ∧
    ∀ c ∈ queue, ∀ left ∈ rest, Before atMost c left

theorem awaits_iff : Awaits atMost deck now c = true ↔
    Memory.inDeck deck c = true ∧ c.suspended = false ∧ isDueBy atMost now c = true := by
  rw [Awaits, Bool.and_eq_true, Bool.and_eq_true, Bool.not_eq_true', and_assoc]

/-- By exact dates, the cards that await are the unsuspended ones that are due, in the deck. -/
theorem isDue_and_inDeck (c : Card) :
    (!c.suspended && c.scheduling.isDue now && Memory.inDeck deck c) =
      Awaits Timestamp.isAtMost deck now c := by
  rw [Awaits, Bool.and_comm, ← Bool.and_assoc]
  rfl

/-- Cards that await have a due date. -/
theorem exists_dueDate (h : Awaits atMost deck now c = true) :
    ∃ x, c.scheduling.dueDate = some x := by
  have hdue := (awaits_iff.mp h).2.2
  unfold isDueBy at hdue
  cases hdate : c.scheduling.dueDate with
  | none =>
    rw [hdate] at hdue
    cases hdue
  | some x => exact ⟨x, rfl⟩

theorem DueQueue.mem (h : DueQueue atMost deck now limit all queue) (hc : c ∈ queue) :
    c ∈ all ∧ Awaits atMost deck now c = true := by
  obtain ⟨rest, hperm, -⟩ := h.first
  exact List.mem_filter.mp (hperm.mem_iff.mp (List.mem_append_left _ hc))

/-- **What is taken off a sorted list is a queue.** -/
theorem DueQueue.of_sorted {sorted : List Card}
    (hperm : sorted.Perm (all.filter (Awaits atMost deck now)))
    (hsorted : sorted.Pairwise (Before atMost)) :
    DueQueue atMost deck now limit all (sorted.take limit) := by
  rw [← List.take_append_drop limit sorted] at hperm hsorted
  obtain ⟨hordered, -, hfirst⟩ := List.pairwise_append.mp hsorted
  refine ⟨?_, hordered, sorted.drop limit, hperm, hfirst⟩
  rw [List.countP_eq_length_filter, ← hperm.length_eq, List.take_append_drop, List.length_take]

/-- What is sorted is in the order of a queue if `le` sorts cards with due dates in this order. -/
theorem pairwise_before_mergeSort {le : Card → Card → Bool} {due : List Card}
    (hawaits : ∀ c ∈ due, Awaits atMost deck now c = true)
    (trans : ∀ a b c, le a b = true → le b c = true → le a c = true)
    (total : ∀ a b, (le a b || le b a) = true)
    (hle : ∀ {a b x y}, a.scheduling.dueDate = some x → b.scheduling.dueDate = some y →
      le a b = true → InOrder (atMost · ·) (x, a.id) (y, b.id)) :
    (due.mergeSort le).Pairwise (Before atMost) := by
  refine (List.pairwise_mergeSort trans total due).imp_of_mem fun {a b} ha hb hab => ?_
  rw [(List.mergeSort_perm due le).mem_iff] at ha hb
  obtain ⟨x, hx⟩ := exists_dueDate (hawaits a ha)
  obtain ⟨y, hy⟩ := exists_dueDate (hawaits b hb)
  exact ⟨x, y, hx, hy, hle hx hy hab⟩

/-- The same cards await, whatever way to compare and time tell the same of their dates. -/
theorem awaits_congr (h : DueDates (fun x => atMost x now = atMost' x now') deck all) :
    ∀ c ∈ all, Awaits atMost deck now c = Awaits atMost' deck now' c := by
  intro c hc
  rw [Bool.eq_iff_iff, awaits_iff, awaits_iff]
  refine and_congr_right fun hdeck => and_congr_right fun hsuspended => ?_
  unfold isDueBy
  cases hdue : c.scheduling.dueDate with
  | none => rfl
  | some x =>
    show atMost x now = true ↔ atMost' x now' = true
    rw [h c hc hdeck hsuspended x hdue]

/-- **Ways to compare that agree on the dates at hand make the same queues.** -/
theorem DueQueue.congr (h : DueQueue atMost deck now limit all queue)
    (hnow : DueDates (fun x => atMost x now = atMost' x now) deck all)
    (hdates : DueDates (fun x => DueDates (fun y => atMost x y = atMost' x y) deck all) deck all) :
    DueQueue atMost' deck now limit all queue := by
  have hawaits := awaits_congr hnow
  have hbefore : ∀ a b, a ∈ all ∧ Awaits atMost deck now a = true →
      b ∈ all ∧ Awaits atMost deck now b = true → Before atMost a b → Before atMost' a b := by
    rintro a b ⟨ha, hawaits⟩ ⟨hb, hawaits'⟩ ⟨x, y, hx, hy, horder⟩
    obtain ⟨hdeck, hsuspended, -⟩ := awaits_iff.mp hawaits
    obtain ⟨hdeck', hsuspended', -⟩ := awaits_iff.mp hawaits'
    have hxy := hdates a ha hdeck hsuspended x hx b hb hdeck' hsuspended' y hy
    have hyx := hdates b hb hdeck' hsuspended' y hy a ha hdeck hsuspended x hx
    refine ⟨x, y, hx, hy, ?_⟩
    unfold InOrder at horder ⊢
    dsimp only at horder ⊢
    rwa [← hxy, ← hyx]
  obtain ⟨rest, hperm, hfirst⟩ := h.first
  have hmem : ∀ c ∈ queue ++ rest, c ∈ all ∧ Awaits atMost deck now c = true :=
    fun c hc => List.mem_filter.mp (hperm.mem_iff.mp hc)
  refine ⟨?_, h.ordered.imp_of_mem fun ha hb => hbefore _ _ (h.mem ha) (h.mem hb), rest, ?_, ?_⟩
  · rw [h.length, List.countP_congr fun c hc => by rw [hawaits c hc]]
  · rwa [← List.filter_congr hawaits]
  · intro c hc left hleft
    exact hbefore c left (h.mem hc) (hmem left (List.mem_append_right _ hleft))
      (hfirst c hc left hleft)

/-! ## Questions -/

section Asked

variable {σ : Type} {store : Store σ} {s : σ} {stats : DeckStats}

/-- What a store answers at one time: all cards of a deck, its numbers, and its queue. -/
structure Asked (store : Store σ) (s : σ) (deck : Option DeckId) (now : Timestamp) (limit : Nat)
    (all : List Card) (stats : DeckStats) (queue : List Card) : Prop where
  all : store.cardsInDeck deck s = .ok all
  stats : deckStats store deck now s = .ok stats
  queue : dueCards store deck now limit s = .ok queue

/-- Whether a queue fits the numbers of its deck at `now`, and holds cards that are due then. -/
structure Fits (deck : Option DeckId) (now : Timestamp) (limit : Nat) (stats : DeckStats)
    (queue : List Card) : Prop where
  length : queue.length = min limit stats.dueCards
  due : ∀ c ∈ queue, Memory.inDeck deck c = true ∧ c.suspended = false ∧ c.scheduling.isDue now = true

/-- Whether the queue, the numbers of its deck, and what is due all agree. -/
structure Agrees (deck : Option DeckId) (now : Timestamp) (limit : Nat) (all : List Card)
    (stats : DeckStats) (queue : List Card) : Prop extends Fits deck now limit stats queue where
  queue : DueQueue Timestamp.isAtMost deck now limit all queue

/-- A queue fits the numbers at the time at which the same cards are due by exact dates. -/
theorem DueQueue.fits (h : DueQueue atMost deck now limit all queue)
    (hsame : DueDates (fun x => atMost x now = x.isAtMost now') deck all)
    (hstats : stats.dueCards = all.countP (Awaits Timestamp.isAtMost deck now')) :
    Fits deck now' limit stats queue := by
  have hawaits := awaits_congr hsame
  refine ⟨?_, fun c hc => ?_⟩
  · rw [h.length, hstats, List.countP_congr fun c hc => by rw [hawaits c hc]]
  · obtain ⟨hmem, hc⟩ := h.mem hc
    rw [hawaits c hmem] at hc
    exact awaits_iff.mp hc

theorem DueQueue.agrees (h : DueQueue Timestamp.isAtMost deck now limit all queue)
    (hstats : stats.dueCards = all.countP (Awaits Timestamp.isAtMost deck now)) :
    Agrees deck now limit all stats queue :=
  ⟨h.fits (fun _ _ _ _ _ _ => rfl) hstats, h⟩

/-- Whether a deck is there, if one is given. -/
def HasDeck (store : Store σ) (s : σ) (deck : Option DeckId) : Prop :=
  ∀ id ∈ deck, ∃ d, store.deck? id s = .ok (some d)

theorem HasDeck.checkDeck (h : HasDeck store s deck) : checkDeck store deck s = .ok () := by
  cases deck with
  | none => rfl
  | some id =>
    obtain ⟨d, hd⟩ := h id rfl
    rw [Collection.checkDeck, hd]
    rfl

/-- **The number of due cards** is the number of cards that await in the deck. -/
theorem deckStats_eq_ok (hdeck : checkDeck store deck s = .ok ())
    (hcards : store.cardsInDeck deck s = .ok all) (hall : ∀ c ∈ all, Memory.inDeck deck c = true) :
    ∃ stats, deckStats store deck now s = .ok stats ∧
      stats.dueCards = all.countP (Awaits Timestamp.isAtMost deck now) := by
  refine ⟨_, deckStats_eq_numbers hdeck hcards, (Tally.due.of_numbers deck now _).trans ?_⟩
  refine List.countP_congr fun c hc => ?_
  rw [← isDue_and_inDeck, Tally.counts, hall c hc, Bool.and_true]

end Asked

end Collection

/-! ## In memory -/

namespace Memory

open Collection

variable {a b c : Card}

/-- Cards with due dates are in the order that a queue has. -/
theorem dueBefore_iff {x y : Timestamp} (hx : a.scheduling.dueDate = some x)
    (hy : b.scheduling.dueDate = some y) :
    dueBefore a b = true ↔ InOrder (·.isAtMost ·) (x, a.id) (y, b.id) := by
  rw [dueBefore, hx, hy, InOrder]
  by_cases h : x = y
  · subst h
    simp [Timestamp.isAtMost_refl]
  · simp only [h, if_false]
    exact ⟨fun hle => ⟨hle, fun hge => absurd (Timestamp.isAtMost_antisymm hle hge) h⟩, And.left⟩

/-- Cards without due dates come first. -/
theorem dueBefore_of_none (ha : a.scheduling.dueDate = none) :
    dueBefore a b = true ↔ b.scheduling.dueDate = none → a.id ≤ b.id := by
  rw [dueBefore, ha]
  cases b.scheduling.dueDate <;> simp

theorem not_dueBefore_none {x : Timestamp} (ha : a.scheduling.dueDate = some x)
    (hb : b.scheduling.dueDate = none) : ¬ dueBefore a b = true := by
  rw [dueBefore, ha, hb]
  exact Bool.false_ne_true

theorem dueBefore_total (a b : Card) : (dueBefore a b || dueBefore b a) = true := by
  rw [Bool.or_eq_true]
  cases hx : a.scheduling.dueDate with
  | none =>
    cases hy : b.scheduling.dueDate with
    | none =>
      rw [dueBefore_of_none hx, dueBefore_of_none hy]
      exact (Int.le_total a.id b.id).imp (fun h _ => h) (fun h _ => h)
    | some y => exact Or.inl ((dueBefore_of_none hx).mpr fun h => by rw [hy] at h; cases h)
  | some x =>
    cases hy : b.scheduling.dueDate with
    | none => exact Or.inr ((dueBefore_of_none hy).mpr fun h => by rw [hx] at h; cases h)
    | some y =>
      rw [dueBefore_iff hx hy, dueBefore_iff hy hx]
      exact InOrder.total Timestamp.isAtMost_total _ _

theorem dueBefore_trans (a b c : Card) (hab : dueBefore a b = true) (hbc : dueBefore b c = true) :
    dueBefore a c = true := by
  cases hx : a.scheduling.dueDate with
  | none =>
    rw [dueBefore_of_none hx] at hab ⊢
    intro hz
    cases hy : b.scheduling.dueDate with
    | none => exact Int.le_trans (hab hy) ((dueBefore_of_none hy).mp hbc hz)
    | some y => exact absurd hbc (not_dueBefore_none hy hz)
  | some x =>
    cases hy : b.scheduling.dueDate with
    | none => exact absurd hab (not_dueBefore_none hx hy)
    | some y =>
      cases hz : c.scheduling.dueDate with
      | none => exact absurd hbc (not_dueBefore_none hy hz)
      | some z =>
        rw [dueBefore_iff hx hy] at hab
        rw [dueBefore_iff hy hz] at hbc
        rw [dueBefore_iff hx hz]
        exact hab.trans Timestamp.isAtMost_trans hbc

/-- **In memory the queue and the numbers of a deck fit together**, in every state and at every
time. -/
theorem agrees (m : Memory) {deck : Option DeckId} (now : Timestamp) (limit : Nat)
    (hdeck : HasDeck Memory.store m deck) :
    ∃ all stats queue, Asked Memory.store m deck now limit all stats queue ∧
      Agrees deck now limit all stats queue := by
  let all := m.cards.values.filter (inDeck deck)
  have hall : ∀ c ∈ all, inDeck deck c = true := fun c hc => (List.mem_filter.mp hc).2
  obtain ⟨stats, hstats, hcount⟩ : ∃ stats, deckStats Memory.store deck now m = .ok stats ∧
      stats.dueCards = all.countP (Awaits Timestamp.isAtMost deck now) :=
    deckStats_eq_ok hdeck.checkDeck rfl hall
  let due := all.filter fun c => !c.suspended && c.scheduling.isDue now
  have hdue : due = all.filter (Awaits Timestamp.isAtMost deck now) := by
    refine List.filter_congr fun c hc => ?_
    rw [← isDue_and_inDeck, hall c hc, Bool.and_true]
  have hawaits : ∀ c ∈ due, Awaits Timestamp.isAtMost deck now c = true := by
    intro c hc
    rw [hdue] at hc
    exact (List.mem_filter.mp hc).2
  have hqueue : DueQueue Timestamp.isAtMost deck now limit all ((due.mergeSort dueBefore).take limit) := by
    refine .of_sorted (hdue ▸ List.mergeSort_perm due dueBefore) ?_
    exact pairwise_before_mergeSort hawaits dueBefore_trans dueBefore_total
      fun hx hy => (dueBefore_iff hx hy).mp
  refine ⟨all, stats, _, ⟨rfl, hstats, ?_⟩, hqueue.agrees hcount⟩
  rw [Collection.dueCards, hdeck.checkDeck]
  rfl

end Memory

end Flashcard
