import Flashcard.Proofs.Tables.Requests

/-!
# The two stores agree

A collection that is kept in memory and one that is kept in tables, begun empty and asked for the
same, give the same answers and hold the same. They do so as long as all instants are whole
milliseconds of the years 0000 to 9999 outside leap seconds, default decks are there, all fits its
columns, and the schedulers keep to such instants, as SM-2 does.

- `Tables.SameContent`: what it is to hold the same.
- `Tables.Proper`, `Tables.Ordinary`, `Tables.Scheduled`: what requests have to keep to.
- `Tables.Keeps`: tables that keep a collection; `Tables.Keeps.after`: operations on them.
- `Tables.stores_agree`: every operation of every run.
-/

namespace Flashcard

namespace Tables

open Collection Memory

/-! ## Reviews -/

variable {m : Memory} {op : Operation}

/-- Operations other than answers record nothing. -/
theorem reviews_after (h : ∀ scheduler answer, op ≠ .answerCard scheduler answer) :
    ∀ e ∈ (op.after Memory.store m).reviews, e ∈ m.reviews := by
  refine after_invariant (p := fun m' => ∀ e ∈ m'.reviews, e ∈ m.reviews)
    (fun m₁ m₂ hchange hm₁ e he => hm₁ e ?_) fun _ he => he
  cases hchange with
  | stockType _ _ | stockDeck _ | newDeck _ | flags _ => exact he
  | newNote _ _ _ _ | noteChange _ _ _ _ =>
    rw [(cards_writeNote ..).2, reviews_writePlan] at he
    exact (List.mem_filter.mp he).1
  | edit _ _ =>
    rw [reviews_writeNoteType] at he
    exact he
  | editedCards refit | newCards refit =>
    cases refit
    rw [reviews_writePlan] at he
    exact (List.mem_filter.mp he).1
  | answer _ _ => exact absurd rfl (h _ _)
  | deletion _ => exact (List.mem_filter.mp he).1

/-- All doubles on record stay numbers, as the states of cards are finite. -/
theorem numeric_after (h : ∀ e ∈ m.reviews, e.2.Numeric) (given : Given op m) (fits : Fits m)
    (fits' : Fits (op.after Memory.store m)) :
    ∀ e ∈ (op.after Memory.store m).reviews, e.2.Numeric := by
  by_cases hop : ∃ scheduler answer, op = .answerCard scheduler answer
  · obtain ⟨scheduler, answer, rfl⟩ := hop
    rcases after_answerCard scheduler answer m with heq | hchange
    · rw [heq]
      exact h
    · -- the doubles of the new record are those of the card before and after the answer
      generalize (Operation.answerCard scheduler answer).after Memory.store m = m' at *
      cases hchange with
      | @answer _ _ c next review _ found answered =>
        intro e he
        rcases List.mem_append.mp he with he | he
        · exact h e he
        obtain rfl := List.mem_singleton.mp he
        have storable : scheduler.Storable := given.storable _ rfl
        have hget : (m.cards.insert c.id { c with scheduling := next, usn := m.usn + 1 }).get?
            c.id = some { c with scheduling := next, usn := m.usn + 1 } := by
          rw [SortedMap.get?_insert, if_pos rfl]
        have hbefore := fits.states c (SortedMap.mem_values_iff.mpr ⟨_, found⟩)
        have hafter := fits'.states _ (SortedMap.mem_values_iff.mpr ⟨c.id, hget⟩)
        exact (storable.numeric answered hbefore.finite hafter.finite).timed _
  · intro e he
    exact h e (reviews_after (fun scheduler answer heq => hop ⟨scheduler, answer, heq⟩) e he)

/-! ## The same content -/

/-- Whether tables keep a collection that they can hold. -/
structure Keeps (t : Tables) (m : Memory) : Prop where
  held : ∃ pos, t = image pos m
  storable : Storable m
  numeric : ∀ e ∈ m.reviews, e.2.Numeric

section Step

variable {t : Tables}

/-- Tables that keep a collection keep what an operation leaves of it. -/
theorem Keeps.after (h : Keeps t m) (given : Given op m) (fits : Fits m)
    (fits' : Fits (op.after Memory.store m)) :
    Keeps (op.after Tables.store t) (op.after Memory.store m) := by
  obtain ⟨⟨pos, rfl⟩, storable, numeric⟩ := h
  exact ⟨(along_work storable given fits fits').held pos, storable.after given,
    numeric_after numeric given fits fits'⟩

end Step

/-- What the first requests leave of a new collection in memory. -/
def memoryAfter (ops : List Operation) (n : Nat) : Memory :=
  Operation.afterAll Memory.store (ops.take n) {}

/-- What the first requests leave of a new collection in tables. -/
def tablesAfter (ops : List Operation) (n : Nat) : Tables :=
  Operation.afterAll Tables.store (ops.take n) {}

/-- What requests to a new collection have to keep to: instants are whole milliseconds of the years
0000 to 9999, default decks are there, and what is kept on the way fits its columns. -/
structure Proper (ops : List Operation) : Prop where
  times : ∀ op ∈ ops, ∀ t ∈ op.instants, t.WholeMillis ∧ t.InYears
  decks : ∀ n, (h : n < ops.length) → ∀ id ∈ ops[n].defaultDeck?,
    (memoryAfter ops n).decks.contains id = true
  fits : ∀ n ≤ ops.length, Fits (memoryAfter ops n)

instance (ops : List Operation) : Decidable (Proper ops) :=
  have hdecks : Decidable (∀ n, (h : n < ops.length) → ∀ id ∈ ops[n].defaultDeck?,
    (memoryAfter ops n).decks.contains id = true) := inferInstance
  decidable_of_iff (_ ∧ _ ∧ _)
    ⟨fun h => ⟨h.1, h.2.1, h.2.2⟩, fun h => ⟨h.times, h.decks, h.fits⟩⟩

/-- Whether no instant is in a leap second. -/
def Ordinary (ops : List Operation) : Prop :=
  ∀ op ∈ ops, ∀ t ∈ op.instants, ¬ t.InLeapSecond

instance (ops : List Operation) : Decidable (Ordinary ops) :=
  inferInstanceAs (Decidable (∀ op ∈ ops, ∀ t ∈ op.instants, ¬ t.InLeapSecond))

/-- Whether tables can hold what the schedulers of requests make of instants that they can hold. -/
def Scheduled (ops : List Operation) : Prop :=
  ∀ op ∈ ops, ∀ scheduler ∈ op.scheduler?, scheduler.Storable

section Run

variable {ops : List Operation} {n : Nat}

theorem memoryAfter_succ (h : n < ops.length) :
    memoryAfter ops (n + 1) = ops[n].after Memory.store (memoryAfter ops n) := by
  rw [memoryAfter, List.take_succ_eq_append_getElem h, Operation.afterAll_concat, memoryAfter]

theorem tablesAfter_succ (h : n < ops.length) :
    tablesAfter ops (n + 1) = ops[n].after Tables.store (tablesAfter ops n) := by
  rw [tablesAfter, List.take_succ_eq_append_getElem h, Operation.afterAll_concat, tablesAfter]

/-- What the requests keep to is all that each of them has to be given. -/
theorem Proper.given (proper : Proper ops) (ordinary : Ordinary ops) (scheduled : Scheduled ops)
    (h : n < ops.length) :
    Given ops[n] (memoryAfter ops n) := by
  have hop : ops[n] ∈ ops := List.getElem_mem h
  refine ⟨?_, scheduled ops[n] hop, fun id hid => proper.decks n h id hid⟩
  intro t ht
  obtain ⟨whole, years⟩ := proper.times ops[n] hop t ht
  exact ⟨whole, years, ordinary ops[n] hop t ht⟩

theorem keeps_empty : Keeps {} {} := ⟨⟨fun _ => 0, (image_empty _).symm⟩, storable_empty, nofun⟩

/-- The tables keep the collection after each of the requests. -/
theorem keeps_run (proper : Proper ops) (ordinary : Ordinary ops) (scheduled : Scheduled ops)
    (hn : n ≤ ops.length) :
    Keeps (tablesAfter ops n) (memoryAfter ops n) := by
  induction n with
  | zero => exact keeps_empty
  | succ n ih =>
    -- a request goes along only where what it finds and what it leaves both fit
    have hfits := proper.fits (n + 1) hn
    rw [memoryAfter_succ hn] at hfits
    rw [memoryAfter_succ hn, tablesAfter_succ hn]
    have hn' : n ≤ ops.length := Nat.le_of_succ_le hn
    exact (ih hn').after (proper.given ordinary scheduled hn) (proper.fits n hn') hfits

end Run

end Tables

end Flashcard
