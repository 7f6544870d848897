import Flashcard.Scheduling.Sm2

/-!
# Schedulers

What a collection asks of a scheduler: the state that a new card starts in, and what an answer makes of
a state. Nothing else is known of it where cards are made and answered.

- `Scheduler`: the schedulers. `Sm2.scheduler`: SM-2 as one.
-/

namespace Flashcard

/-- A scheduler; if no other is given, SM-2 as it usually is. -/
structure Scheduler where
  /-- The state of a card that was never answered. -/
  newCard : Timestamp → SchedulingState := ({} : Sm2).newCard
  /-- The state after an answer and the record of it, or nothing if there is no such state. -/
  answer? : SchedulingState → Rating → Timestamp → Option (SchedulingState × Review) :=
    ({} : Sm2).answer?

/-- SM-2 with its parameters, as a scheduler. -/
def Sm2.scheduler (p : Sm2) : Scheduler where
  newCard := p.newCard
  answer? := p.answer?

instance : Coe Sm2 Scheduler := ⟨Sm2.scheduler⟩

end Flashcard
