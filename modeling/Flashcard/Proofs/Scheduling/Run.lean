import Flashcard.Scheduling.Sm2
import Mathlib.Data.List.Basic

/-!
# Runs of answers

The scheduler goes from state to state, one answer at a time. What a card has come to after all of its
answers is said here from their ratings alone, for every choice of parameters.

- `Review.Records`: the record of a step from one state to the next.
- `Sm2.run?`: the states and records that answers lead to.
- `statusAfter`, `isLapse`: the status that ratings lead to, and the answers that are lapses.
- `Standing`, `Chronicle`: what a state has to be after some answers, and a whole run.

## Main statements

- `Sm2.answer?_eq_some_iff`: all that an answer does.
- `Standing.answer`: one more answer, by the table of statuses and ratings.
- `Sm2.chronicle_run`: every run from the state of a new card.
-/

namespace Flashcard

/-- Whether a review records the step from one state to the next. -/
structure Review.Records (r : Review) (s next : SchedulingState) : Prop where
  counted : next.reviewsCount = s.reviewsCount + 1
  statusBefore : r.statusBefore = s.status
  intervalBefore : r.intervalBefore = s.intervalDays
  easeBefore : r.easeBefore = s.easeFactor
  intervalAfter : r.intervalAfter = next.intervalDays
  easeAfter : r.easeAfter = next.easeFactor

/-- The status of a card that was new and then got some ratings. -/
def statusAfter (ratings : List Rating) : CardStatus :=
  if ratings = [] then .new
  else if ∀ r ∈ ratings, r = .again ∨ r = .hard then .learning
  else if ratings.getLast? = some .again then .relearning
  else .review

/-- Whether an answer is a lapse: a card in review or relearning was not known. -/
def isLapse : SchedulingState × Rating → Bool
  | (s, rating) => rating == .again && (s.status == .review || s.status == .relearning)

/-- What a state has to be after some ratings, where `earlier` are the states before each of them. -/
structure Standing (ratings : List Rating) (earlier : List SchedulingState) (s : SchedulingState) :
    Prop where
  reviewsCount : s.reviewsCount = ratings.length
  lapses : s.lapses = (earlier.zip ratings).countP isLapse
  status : s.status = statusAfter ratings

/-! ## Single answers -/

/-- The status after one more rating, by the table of statuses and ratings. -/
theorem statusAfter_concat (ratings : List Rating) (rating : Rating) :
    statusAfter (ratings ++ [rating]) =
      match statusAfter ratings, rating with
      | .new, .again | .new, .hard | .learning, .again | .learning, .hard => .learning
      | .review, .again | .relearning, .again => .relearning
      | _, _ => .review := by
  have hconcat : statusAfter (ratings ++ [rating]) =
      if (∀ r ∈ ratings, r = .again ∨ r = .hard) ∧ (rating = .again ∨ rating = .hard) then .learning
      else if rating = .again then .relearning
      else .review := by
    rw [statusAfter, if_neg (List.concat_ne_nil rating ratings), List.getLast?_concat]
    simp only [List.forall_mem_append, List.forall_mem_singleton, Option.some.injEq]
  rw [hconcat]
  by_cases hnone : ratings = []
  · subst hnone
    cases rating <;> simp [statusAfter]
  by_cases hlow : ∀ r ∈ ratings, r = .again ∨ r = .hard
  · -- the card is still being learned
    rw [statusAfter, if_neg hnone, if_pos hlow]
    simp only [and_iff_right hlow]
    cases rating <;> simp
  · rw [statusAfter, if_neg hnone, if_neg hlow]
    simp only [hlow, false_and, if_false]
    by_cases hagain : ratings.getLast? = some .again <;> cases rating <;> simp [hagain]

namespace Sm2

variable {p : Sm2} {s next : SchedulingState} {rating : Rating} {now : Timestamp} {review : Review}

/-- The status after a step, by status and rating. -/
theorem status_step {ratings : List Rating} (h : s.status = statusAfter ratings) :
    (p.step s rating).status = statusAfter (ratings ++ [rating]) := by
  rw [statusAfter_concat, ← h, step]
  cases s.status <;> cases rating <;> rfl

theorem lapses_step : (p.step s rating).lapses = s.lapses + (isLapse (s, rating)).toNat := by
  rw [step, isLapse]
  cases s.status <;> cases rating <;> rfl

/-- **All that an answer does**: it succeeds exactly if the due date can be held, and then gives one
state and one record. -/
theorem answer?_eq_some_iff :
    p.answer? s rating now = some (next, review) ↔
      ∃ due, now.addDays? (wholeDays (p.step s rating).interval) = some due ∧
        next = {
          status := (p.step s rating).status
          intervalDays := (p.step s rating).interval
          easeFactor := (p.step s rating).ease
          lapses := (p.step s rating).lapses
          reviewsCount := s.reviewsCount + 1
          dueDate := some due } ∧
        review = {
          rating
          reviewedAt := now
          statusBefore := s.status
          intervalBefore := s.intervalDays
          intervalAfter := (p.step s rating).interval
          easeBefore := s.easeFactor
          easeAfter := (p.step s rating).ease } := by
  unfold answer?
  simp only [Option.bind_eq_bind, Option.bind_eq_some_iff, Option.pure_def, Option.some.injEq,
    Prod.mk.injEq]
  constructor
  · rintro ⟨due, hdue, rfl, rfl⟩
    exact ⟨due, hdue, rfl, rfl⟩
  · rintro ⟨due, hdue, rfl, rfl⟩
    exact ⟨due, hdue, rfl, rfl⟩

theorem records_answer (h : p.answer? s rating now = some (next, review)) :
    review.Records s next := by
  obtain ⟨due, -, rfl, rfl⟩ := answer?_eq_some_iff.mp h
  exact ⟨rfl, rfl, rfl, rfl, rfl, rfl⟩

/-- The states that answers lead to, with the first one in front, and the records of the answers;
nothing, if the card would once be due outside the years that a timestamp can hold. -/
def run? (p : Sm2) (s : SchedulingState) :
    List (Rating × Timestamp) → Option (List SchedulingState × List Review)
  | [] => some ([s], [])
  | (rating, now) :: rest => do
    let (next, review) ← p.answer? s rating now
    let (states, log) ← p.run? next rest
    pure (s :: states, review :: log)

end Sm2

theorem standing_newCard (p : Sm2) (now : Timestamp) : Standing [] [] (p.newCard now) :=
  ⟨rfl, rfl, rfl⟩

/-- **One more answer.** -/
theorem Standing.answer {p : Sm2} {ratings : List Rating} {earlier : List SchedulingState}
    {s next : SchedulingState} {rating : Rating} {now : Timestamp} {review : Review}
    (h : Standing ratings earlier s) (each : earlier.length = ratings.length)
    (answered : p.answer? s rating now = some (next, review)) :
    Standing (ratings ++ [rating]) (earlier ++ [s]) next := by
  obtain ⟨due, -, rfl, -⟩ := Sm2.answer?_eq_some_iff.mp answered
  refine ⟨?_, ?_, Sm2.status_step h.status⟩
  · show s.reviewsCount + 1 = (ratings ++ [rating]).length
    rw [h.reviewsCount, List.length_append, List.length_singleton]
  · show (p.step s rating).lapses = _
    rw [Sm2.lapses_step, h.lapses, List.zip_append each, List.countP_append]
    show _ = _ + [(s, rating)].countP isLapse
    rw [List.countP_singleton]
    cases isLapse (s, rating) <;> rfl

/-! ## Runs -/

section Run

variable {p : Sm2} {s : SchedulingState} {answers : List (Rating × Timestamp)}
  {states : List SchedulingState} {log : List Review}

/-- A run begins with an answer that succeeds, and goes on from the state after it. -/
theorem Sm2.run?_cons_eq_some {rating : Rating} {now : Timestamp} :
    p.run? s ((rating, now) :: answers) = some (states, log) ↔
      ∃ next review later rest, p.answer? s rating now = some (next, review) ∧
        p.run? next answers = some (later, rest) ∧ states = s :: later ∧ log = review :: rest := by
  rw [run?]
  simp only [Option.bind_eq_bind, Option.bind_eq_some_iff, Prod.exists, Option.pure_def,
    Option.some.injEq, Prod.mk.injEq]
  constructor
  · rintro ⟨next, review, answered, later, rest, completed, rfl, rfl⟩
    exact ⟨next, review, later, rest, answered, completed, rfl, rfl⟩
  · rintro ⟨next, review, later, rest, answered, completed, rfl, rfl⟩
    exact ⟨next, review, answered, later, rest, completed, rfl, rfl⟩

theorem Sm2.run?_nil_eq_some : p.run? s [] = some (states, log) ↔ states = [s] ∧ log = [] := by
  rw [run?, Option.some.injEq, Prod.mk.injEq, eq_comm, eq_comm (a := [])]

theorem Sm2.head?_run (completed : p.run? s answers = some (states, log)) :
    states.head? = some s := by
  cases answers with
  | nil =>
    obtain ⟨rfl, -⟩ := run?_nil_eq_some.mp completed
    rfl
  | cons answer answers =>
    obtain ⟨_, _, _, _, -, -, rfl, -⟩ := run?_cons_eq_some.mp completed
    rfl

theorem Sm2.length_run (completed : p.run? s answers = some (states, log)) :
    states.length = answers.length + 1 := by
  induction answers generalizing s states log with
  | nil =>
    obtain ⟨rfl, -⟩ := run?_nil_eq_some.mp completed
    rfl
  | cons answer answers ih =>
    obtain ⟨_, _, _, _, -, later, rfl, -⟩ := run?_cons_eq_some.mp completed
    rw [List.length_cons, ih later, List.length_cons]

theorem Sm2.logged_run (completed : p.run? s answers = some (states, log)) :
    log.map (fun review => (review.rating, review.reviewedAt)) = answers := by
  induction answers generalizing s states log with
  | nil =>
    obtain ⟨-, rfl⟩ := run?_nil_eq_some.mp completed
    rfl
  | cons answer answers ih =>
    obtain ⟨_, _, _, _, answered, later, -, rfl⟩ := run?_cons_eq_some.mp completed
    obtain ⟨_, -, -, rfl⟩ := answer?_eq_some_iff.mp answered
    rw [List.map_cons, ih later]

/-- Each record of a run is of the step that it stands beside. -/
theorem Sm2.records_run (completed : p.run? s answers = some (states, log)) {k : Nat}
    {before after : SchedulingState} {review : Review} (hbefore : states[k]? = some before)
    (hafter : states[k + 1]? = some after) (hreview : log[k]? = some review) :
    review.Records before after := by
  induction answers generalizing s states log k with
  | nil =>
    obtain ⟨-, rfl⟩ := run?_nil_eq_some.mp completed
    cases hreview
  | cons answer answers ih =>
    obtain ⟨next, _, states, _, answered, later, rfl, rfl⟩ := run?_cons_eq_some.mp completed
    rw [List.getElem?_cons_succ] at hafter
    cases k with
    | zero =>
      have hnext : states[0]? = some next := List.head?_eq_getElem?.symm.trans (head?_run later)
      cases hbefore
      cases hreview
      obtain rfl := Option.some.inj (hnext.symm.trans hafter)
      exact records_answer answered
    | succ k => exact ih later hbefore hafter hreview

/-- **Every state of a run** has the standing that the answers before it give. -/
theorem Standing.run {ratings : List Rating} {earlier : List SchedulingState}
    (h : Standing ratings earlier s) (each : earlier.length = ratings.length)
    (completed : p.run? s answers = some (states, log)) {k : Nat} {state : SchedulingState}
    (hstate : states[k]? = some state) :
    Standing (ratings ++ (answers.take k).map (·.1)) (earlier ++ states.take k) state := by
  -- the induction is over all states to begin in, with the ratings that led there
  induction answers generalizing s states log ratings earlier k with
  | nil =>
    obtain ⟨rfl, -⟩ := Sm2.run?_nil_eq_some.mp completed
    cases k with
    | zero =>
      cases hstate
      simpa using h
    | succ k => cases hstate
  | cons answer answers ih =>
    obtain ⟨next, _, _, _, answered, later, rfl, -⟩ := Sm2.run?_cons_eq_some.mp completed
    cases k with
    | zero =>
      cases hstate
      simpa using h
    | succ k =>
      have hrest := ih (h.answer each answered) (by simp [each]) later hstate
      rwa [List.append_assoc, List.append_assoc] at hrest

theorem Standing.lapses_le {ratings : List Rating} {earlier : List SchedulingState}
    (h : Standing ratings earlier s) : s.lapses ≤ ratings.length := by
  rw [h.lapses]
  refine Nat.le_trans List.countP_le_length ?_
  rw [List.length_zip]
  omega

end Run

/-- What states and records have to be after answers to a new card. -/
structure Chronicle (p : Sm2) (start : Timestamp) (answers : List (Rating × Timestamp))
    (states : List SchedulingState) (log : List Review) : Prop where
  first : states.head? = some (p.newCard start)
  /-- There is one state more than there are answers. -/
  states_length : states.length = answers.length + 1
  standing : ∀ k s, states[k]? = some s →
    Standing ((answers.take k).map (·.1)) (states.take k) s
  /-- The records are of the answers, one of each. -/
  logged : log.map (fun review => (review.rating, review.reviewedAt)) = answers
  recorded : ∀ k s next review, states[k]? = some s → states[k + 1]? = some next →
    log[k]? = some review → review.Records s next
  /-- Both counters fit 32 bits. -/
  fits : ∀ s ∈ states, s.reviewsCount < 0x100000000 ∧ s.lapses < 0x100000000

/-- **The history of a card**: for all parameters and all answers to a new card, if no due date is out of
range, each state counts the answers and the lapses before it, its status follows from their ratings, and
each record is of the step from one state to the next. -/
theorem Sm2.chronicle_run (p : Sm2) (start : Timestamp) (answers : List (Rating × Timestamp))
    {states : List SchedulingState} {log : List Review}
    (completed : p.run? (p.newCard start) answers = some (states, log))
    (few : answers.length < 0x100000000) : Chronicle p start answers states log := by
  have standing : ∀ k s, states[k]? = some s →
      Standing ((answers.take k).map (·.1)) (states.take k) s :=
    fun k s hstate => (standing_newCard p start).run rfl completed hstate
  refine ⟨head?_run completed, length_run completed, standing, logged_run completed,
    fun k s next review => records_run completed, ?_⟩
  intro s hs
  obtain ⟨k, hstate⟩ := List.mem_iff_getElem?.mp hs
  have standing := standing k s hstate
  have hcount : ((answers.take k).map (·.1)).length < 0x100000000 := by
    rw [List.length_map, List.length_take]
    omega
  exact ⟨standing.reviewsCount ▸ hcount, Nat.lt_of_le_of_lt standing.lapses_le hcount⟩

/-- A card that is learned, lapses twice, and is learned again. -/
theorem Sm2.chronicle_run_relapsing :
    let answers : List (Rating × Timestamp) := [(.hard, ⟨60, 0⟩), (.good, ⟨120, 0⟩), (.again, ⟨86520, 0⟩),
      (.again, ⟨172920, 0⟩), (.easy, ⟨259320, 0⟩)]
    answers.length < 0x100000000 ∧ ∃ states log,
      Sm2.run? {} (Sm2.newCard {} ⟨0, 0⟩) answers = some (states, log) ∧
        Chronicle {} ⟨0, 0⟩ answers states log ∧
        states.map (fun s => (s.status, s.lapses)) = [(.new, 0), (.learning, 0), (.review, 0),
          (.relearning, 1), (.relearning, 2), (.review, 2)] := by
  intro answers
  have few : answers.length < 0x100000000 := by decide
  have hrun : (Sm2.run? {} (Sm2.newCard {} ⟨0, 0⟩) answers).map
      (fun run => run.1.map fun s => (s.status, s.lapses)) = some [(.new, 0), (.learning, 0),
        (.review, 0), (.relearning, 1), (.relearning, 2), (.review, 2)] := by
    decide +kernel
  obtain ⟨⟨states, log⟩, completed, hstates⟩ := Option.map_eq_some_iff.mp hrun
  exact ⟨few, states, log, completed, chronicle_run {} ⟨0, 0⟩ answers completed few, hstates⟩

end Flashcard
