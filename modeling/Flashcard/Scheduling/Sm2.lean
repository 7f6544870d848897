import Flashcard.Card
import Flashcard.Decimal.Shortest

/-!
# The SM-2 scheduler

A card starts out new. While it is new or being learned, a good or easy answer takes it into review,
and any other keeps it in learning. In review and relearning each answer moves the ease and
stretches the interval, except that a lapse starts relearning over.

- `Sm2`: the parameters. `Sm2.named?`: the scheduler of a name.
- `Sm2.newCard`: the state that a card starts in.
- `Sm2.wholeDays`: the days until a card is due again.
- `Sm2.answer?`: the state after an answer, and the record of it.
-/

namespace Flashcard

/-- Parameters of the scheduler; intervals are in days. -/
structure Sm2 where
  initialEase : Float := 2.5
  minimumEase : Float := 1.3
  easyBonus : Float := 1.3
  hardMultiplier : Float := 1.2
  graduatingInterval : Float := 1.0
  easyInterval : Float := 4.0
  deriving DecidableEq

namespace Sm2

/-- The scheduler of a name. -/
def named? : String → Option Sm2
  | "sm2" => some {}
  | _ => none

/-- The greater of two numbers; what is not a number does not count. -/
def greater (a b : Float) : Float :=
  if a.isNaN then b else if b.isNaN then a else if a < b then b else a

/-- The state of a card that was never answered. It is due at once. -/
def newCard (p : Sm2) (now : Timestamp) : SchedulingState where
  status := .new
  intervalDays := 0.0
  easeFactor := p.initialEase
  lapses := 0
  reviewsCount := 0
  dueDate := some now

/-- What an answer decides, apart from the date. -/
structure Step where
  status : CardStatus
  interval : Float
  ease : Float
  lapses : Nat

/-- An answer to a card that is new or being learned. -/
def learn (p : Sm2) (s : SchedulingState) : Rating → Step
  | .again | .hard => ⟨.learning, 0.0, s.easeFactor, s.lapses⟩
  | .good => ⟨.review, p.graduatingInterval, s.easeFactor, s.lapses⟩
  | .easy => ⟨.review, p.easyInterval, s.easeFactor, s.lapses⟩

/-- The state of a card in review whose interval and ease were changed, within their lower
limits. -/
def stretch (p : Sm2) (s : SchedulingState) (multiplier easeChange : Float) : Step :=
  ⟨.review, greater (s.intervalDays * multiplier) 1.0,
    greater (s.easeFactor + easeChange) p.minimumEase, s.lapses⟩

/-- An answer to a card in review or relearning. -/
def review (p : Sm2) (s : SchedulingState) : Rating → Step
  | .again => ⟨.relearning, 1.0, greater (s.easeFactor - 0.2) p.minimumEase, s.lapses + 1⟩
  | .hard => p.stretch s p.hardMultiplier (-0.15)
  | .good => p.stretch s s.easeFactor 0.0
  | .easy => p.stretch s (s.easeFactor * p.easyBonus) 0.15

/-- What an answer decides for a card in whatever state. -/
def step (p : Sm2) (s : SchedulingState) (rating : Rating) : Step :=
  match s.status with
  | .new | .learning => p.learn s rating
  | .review | .relearning => p.review s rating

/-- The first number of days that is too large to be held. -/
def daysLimit : Int := 0x8000000000000000

/-- The whole days of an interval, rounded up. Where these cannot be held it is the nearest number of
days that can, and what is not a number has none. -/
def wholeDays (interval : Float) : Int :=
  if interval.isNaN then 0
  else
    let b := Decimal.Binary.ofFloat interval
    let (numerator, denominator) := Decimal.Binary.ratio b.mantissa 2 b.exponent
    let signed : Int := if interval < 0.0 then -numerator else numerator
    -- division rounds down, so the sign is turned for it
    let up := -(-signed / denominator)
    max (-daysLimit) (min (daysLimit - 1) up)

/-- The state after an answer, and the record of the answer; nothing, if the card would be due
outside the years that a timestamp can hold. -/
def answer? (p : Sm2) (s : SchedulingState) (rating : Rating) (now : Timestamp) :
    Option (SchedulingState × Review) := do
  let step := p.step s rating
  let due ← now.addDays? (wholeDays step.interval)
  let next : SchedulingState := {
    status := step.status
    intervalDays := step.interval
    easeFactor := step.ease
    lapses := step.lapses
    reviewsCount := s.reviewsCount + 1
    dueDate := some due }
  let review : Review := {
    rating
    reviewedAt := now
    statusBefore := s.status
    intervalBefore := s.intervalDays
    intervalAfter := next.intervalDays
    easeBefore := s.easeFactor
    easeAfter := next.easeFactor }
  pure (next, review)

end Sm2

end Flashcard
