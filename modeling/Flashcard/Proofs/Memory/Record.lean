import Flashcard.Proofs.Memory.Integrity
import Flashcard.Proofs.Scheduling.Run
import Mathlib.Data.List.Chain

/-!
# States and the records behind them

The state of a card and its reviews are kept apart, and tell the same story. Where all operations
have one scheduler, the reviews of a card are those of the answers that led from the state of a new
card to the one that the card has now. This includes cards under ids that other cards had before.

- `Tells`: the reviews that a scheduler leaves on its way to a state.
- `SameStory`: what reviews and states have in common.
- `Memory.sameStory_afterAll`: every card after every run of operations.
-/

namespace Flashcard

/-! ## Stories -/

/-- The reviews that a scheduler leaves on its way from a new card to a state. -/
inductive Tells (p : Sm2) : List Review → SchedulingState → Prop where
  | new (now : Timestamp) : Tells p [] (p.newCard now)
  | answer {reviews : List Review} {s next : SchedulingState} {rating : Rating} {now : Timestamp}
      {review : Review} (timeTakenMs : Option Nat) (before : Tells p reviews s)
      (answered : p.answer? s rating now = some (next, review)) :
      Tells p (reviews ++ [{ review with timeTakenMs }]) next

/-- Whether a review begins where a new card is. -/
structure Review.FromNew (p : Sm2) (r : Review) : Prop where
  status : r.statusBefore = .new
  interval : ∀ now, r.intervalBefore = (p.newCard now).intervalDays
  ease : ∀ now, r.easeBefore = (p.newCard now).easeFactor

/-- Whether a review begins where another one ends. -/
structure Review.Follows (r' r : Review) : Prop where
  interval : r'.intervalBefore = r.intervalAfter
  ease : r'.easeBefore = r.easeAfter

/-- Whether reviews, the oldest first, lead from a new card to a state. -/
structure SameStory (p : Sm2) (reviews : List Review) (s : SchedulingState) : Prop where
  counted : reviews.length = s.reviewsCount
  first : ∀ r ∈ reviews.head?, r.FromNew p
  chained : reviews.IsChain fun r r' => r'.Follows r
  last : ∀ r ∈ reviews.getLast?, r.intervalAfter = s.intervalDays ∧ r.easeAfter = s.easeFactor
  /-- Without reviews the state is that of a new card. -/
  unreviewed : reviews = [] → ∃ now, s = p.newCard now

section Story

variable {p : Sm2} {reviews : List Review} {s next : SchedulingState}

theorem sameStory_new (p : Sm2) (now : Timestamp) : SameStory p [] (p.newCard now) where
  counted := rfl
  first _ h := nomatch h
  chained := .nil
  last _ h := nomatch h
  unreviewed _ := ⟨now, rfl⟩

theorem SameStory.append {r : Review} (h : SameStory p reviews s) (records : r.Records s next) :
    SameStory p (reviews ++ [r]) next := by
  refine ⟨?_, ?_, ?_, ?_, ?_⟩
  · rw [List.length_append, h.counted, records.counted]
    rfl
  · intro first hfirst
    cases reviews with
    | nil =>
      -- the first review of all begins at the state of a new card
      obtain rfl := Option.some.inj hfirst
      obtain ⟨now, rfl⟩ := h.unreviewed rfl
      exact ⟨records.statusBefore, fun _ => records.intervalBefore, fun _ => records.easeBefore⟩
    | cons r₀ rest => exact h.first first hfirst
  · refine h.chained.append (.singleton r) ?_
    intro previous hprevious r' hr'
    obtain rfl := Option.some.inj hr'
    obtain ⟨hinterval, hease⟩ := h.last previous hprevious
    exact ⟨records.intervalBefore.trans hinterval.symm, records.easeBefore.trans hease.symm⟩
  · intro last hlast
    rw [List.getLast?_concat] at hlast
    obtain rfl := Option.some.inj hlast
    exact ⟨records.intervalAfter, records.easeAfter⟩
  · exact fun hnil => absurd hnil (List.append_ne_nil_of_right_ne_nil _ (List.cons_ne_nil r []))

/-- What a scheduler leaves on its way to a state is the story of that state. -/
theorem Tells.sameStory (h : Tells p reviews s) : SameStory p reviews s := by
  induction h with
  | new now => exact sameStory_new p now
  | answer timeTakenMs _ answered ih =>
    obtain ⟨h₁, h₂, h₃, h₄, h₅, h₆⟩ := Sm2.records_answer answered
    exact ih.append ⟨h₁, h₂, h₃, h₄, h₅, h₆⟩

end Story

namespace Collection.Operation

/-- Whether an operation is an answer to a card. -/
def isAnswer : Operation → Bool
  | .answerCard _ _ => true
  | _ => false

end Collection.Operation

namespace Memory

open Collection

variable {op : Operation} {m m' : Memory} {p : Sm2}

/-! ## Every change -/

/-- What is true of every store that operations with one scheduler lead to. -/
structure Recorded (p : Sm2) (m : Memory) : Prop where
  sound : Sound m
  reviewed : Reviewed m
  tells : ∀ c, m.Holds c → Tells p (m.reviewsOf c.id) c.scheduling

theorem recorded_empty (p : Sm2) : Recorded p {} :=
  ⟨sound_empty, reviewed_empty, fun _ h => nomatch h⟩

theorem Recorded.change (hchange : Change op m m')
    (given : ∀ scheduler ∈ op.scheduler?, scheduler = p.scheduler) (h : Recorded p m) : Recorded p m' := by
  refine ⟨h.sound.change hchange, h.reviewed.change hchange h.sound, ?_⟩
  intro c' hc'
  cases origin h.sound hchange hc' with
  | kept held _ scheduling_eq reviews_eq =>
    rw [scheduling_eq, reviews_eq]
    exact h.tells _ held
  | answered op_eq held _ answered reviews_eq =>
    rw [op_eq] at given
    obtain rfl := given _ rfl
    rw [reviews_eq]
    exact .answer _ (h.tells _ held) answered
  | new scheduler_eq _ above scheduling_eq _ reviews_eq =>
    -- whatever had the id before took its reviews along
    obtain rfl := given _ scheduler_eq
    rw [reviews_eq, scheduling_eq, h.reviewed.reviewsOf_eq_nil h.sound.keyed above]
    exact .new _

theorem Recorded.after (h : Recorded p m) (given : ∀ scheduler ∈ op.scheduler?, scheduler = p.scheduler) :
    Recorded p (op.after store m) :=
  after_invariant (fun _ _ hchange h => h.change hchange given) h

theorem recorded_afterAll {ops : List Operation}
    (given : ∀ op ∈ ops, ∀ scheduler ∈ op.scheduler?, scheduler = p.scheduler) :
    Recorded p (Operation.afterAll store ops {}) :=
  Operation.afterAll_invariant (fun op hop _ h => h.after (given op hop)) (recorded_empty p)

/-! ## How often cards are answered -/

/-- No card was answered more often than a number of times. -/
def AnsweredAtMost (k : Nat) (m : Memory) : Prop := ∀ c, m.Holds c → c.scheduling.reviewsCount ≤ k

theorem AnsweredAtMost.change {k : Nat} (hchange : Change op m m')
    (given : ∀ scheduler ∈ op.scheduler?, scheduler = p.scheduler) (sound : Sound m)
    (h : AnsweredAtMost k m) : AnsweredAtMost (k + op.isAnswer.toNat) m' := by
  intro c' hc'
  cases origin sound hchange hc' with
  | kept held _ scheduling_eq _ =>
    rw [scheduling_eq]
    exact Nat.le_add_right_of_le (h _ held)
  | answered op_eq held _ answered _ =>
    rw [op_eq] at given
    obtain rfl := given _ rfl
    rw [(Sm2.records_answer (p := p) answered).counted, op_eq]
    exact Nat.succ_le_succ (h _ held)
  | new scheduler_eq _ _ scheduling_eq _ _ =>
    obtain rfl := given _ scheduler_eq
    rw [scheduling_eq]
    exact Nat.zero_le _

theorem AnsweredAtMost.after {k : Nat}
    (given : ∀ scheduler ∈ op.scheduler?, scheduler = p.scheduler) (sound : Sound m)
    (h : AnsweredAtMost k m) : AnsweredAtMost (k + op.isAnswer.toNat) (op.after store m) := by
  cases hop : op.isAnswer with
  | false =>
    have step : ∀ m₁ m₂, Change op m₁ m₂ → Sound m₁ ∧ AnsweredAtMost k m₁ →
        Sound m₂ ∧ AnsweredAtMost k m₂ := by
      intro m₁ m₂ hchange ⟨sound₁, h₁⟩
      have h₂ := h₁.change hchange given sound₁
      rw [hop] at h₂
      exact ⟨sound₁.change hchange, h₂⟩
    exact (after_invariant step ⟨sound, h⟩).2
  | true =>
    cases op with
    | answerCard scheduler answer =>
      -- an answer is a single change, or nothing at all
      rcases after_answerCard scheduler answer m with hsame | hchange
      · rw [hsame]
        exact fun c hc => Nat.le_add_right_of_le (h c hc)
      · exact h.change hchange given sound
    | _ => cases hop

theorem answeredAtMost_afterAll {ops : List Operation}
    (given : ∀ op ∈ ops, ∀ scheduler ∈ op.scheduler?, scheduler = p.scheduler) :
    AnsweredAtMost (ops.countP (·.isAnswer)) (Operation.afterAll store ops {}) := by
  have hall : ∀ {k : Nat} {m : Memory}, Sound m → AnsweredAtMost k m →
      AnsweredAtMost (k + ops.countP (·.isAnswer)) (Operation.afterAll store ops m) := by
    induction ops with
    | nil => exact fun _ h => h
    | cons op rest ih =>
      intro k m sound h
      have hcount : k + (op :: rest).countP (·.isAnswer) =
          k + op.isAnswer.toNat + rest.countP (·.isAnswer) := by
        rw [List.countP_cons]
        cases op.isAnswer with
        | false => simp
        | true =>
          show k + (rest.countP (·.isAnswer) + 1) = k + 1 + rest.countP (·.isAnswer)
          omega
      rw [hcount]
      have given := List.forall_mem_cons.mp given
      exact ih given.2 (sound.after op) (h.after given.1 sound)
  rw [← Nat.zero_add (ops.countP _)]
  exact hall sound_empty fun _ h => nomatch h

/-! ## Every run of operations -/

/-- **State and record of each card tell the same story** after all requests with one scheduler, and
the record is no longer than there were answers. -/
theorem sameStory_afterAll (p : Sm2) (ops : List Operation)
    (given : ∀ op ∈ ops, ∀ scheduler ∈ op.scheduler?, scheduler = p.scheduler) :
    ∀ c ∈ (Operation.afterAll store ops {}).cards.values,
      ∃ reviews, store.reviews c.id (Operation.afterAll store ops {}) = .ok reviews ∧
        SameStory p reviews c.scheduling ∧ reviews.length ≤ ops.countP (·.isAnswer) := by
  intro c hc
  have recorded := recorded_afterAll given
  have held := (mem_values_iff_holds recorded.sound.keyed).mp hc
  have story := (recorded.tells c held).sameStory
  refine ⟨_, rfl, story, ?_⟩
  show ((Operation.afterAll store ops {}).reviewsOf c.id).length ≤ _
  rw [story.counted]
  exact answeredAtMost_afterAll given c held

/-- A collection with one card. -/
def unanswered : List Operation :=
  [.seed "Default",
    .addNote {} ⟨"Basic", 1, .ofList [("Front", "F"), ("Back", "B")], [], ⟨0, 0⟩⟩]

/-- The scheduler of both requests. -/
theorem scheduler_unanswered :
    ∀ op ∈ unanswered, ∀ scheduler ∈ op.scheduler?, scheduler = Sm2.scheduler {} := by
  intro op hop scheduler hscheduler
  simp only [unanswered, List.mem_cons, List.not_mem_nil, or_false] at hop
  obtain rfl | rfl := hop
  · cases hscheduler
  · exact (Option.some.inj hscheduler).symm

/-- An answer to the card leaves it there, and with it its story. -/
theorem sameStory_afterAll_answer :
    let ops := unanswered ++ [.answerCard {} ⟨1, .good, ⟨60, 0⟩, some 1200⟩]
    ∃ c ∈ (Operation.afterAll store ops {}).cards.values,
      ∃ reviews, store.reviews c.id (Operation.afterAll store ops {}) = .ok reviews ∧
        SameStory {} reviews c.scheduling := by
  intro ops
  have hcard : ∃ c, (Operation.afterAll store ops {}).cards.get? 1 = some c := by
    -- an answer changes nothing that cards show, so it leaves all of them there
    have hdrafts : (Operation.afterAll store ops {}).drafts =
        (Operation.afterAll store unanswered {}).drafts := by
      rw [Operation.afterAll_concat]
      exact drafts_after_answerCard (recorded_afterAll scheduler_unanswered).sound _ _
    have hsome : ((Operation.afterAll store ops {}).drafts 1).isSome = true := by
      rw [hdrafts]
      decide +kernel
    rw [drafts, Option.isSome_map] at hsome
    exact Option.isSome_iff_exists.mp hsome
  obtain ⟨c, hget⟩ := hcard
  have hmem := SortedMap.mem_values_iff.mpr ⟨1, hget⟩
  have given : ∀ op ∈ ops, ∀ scheduler ∈ op.scheduler?, scheduler = Sm2.scheduler {} := by
    refine List.forall_mem_append.mpr ⟨scheduler_unanswered, List.forall_mem_singleton.mpr ?_⟩
    exact fun scheduler hscheduler => (Option.some.inj hscheduler).symm
  obtain ⟨reviews, hreviews, story, -⟩ := sameStory_afterAll {} ops given c hmem
  exact ⟨c, hmem, reviews, hreviews, story⟩

end Memory

end Flashcard
