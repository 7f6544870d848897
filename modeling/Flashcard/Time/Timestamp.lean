import Flashcard.Time.Calendar

/-!
# Instants

- `Timestamp`: an instant of universal time, exact to the nanosecond.
- `Timestamp.addDays?`: the instant whole days later, if it lies in the supported years.
- `Timestamp.millis`: whole milliseconds, rounded down.
-/

namespace Flashcard

/-- An instant of universal time: a second, counted from 1 January 1970, and the nanoseconds since
it began. A leap second has no count of its own; it is the time from `10^9` nanoseconds on after the
second before it. -/
structure Timestamp where
  second : Int
  nano : Nat
  deriving Repr, DecidableEq, Inhabited

namespace Timestamp

/-- The nanoseconds of a second. -/
def nanosPerSecond : Nat := 1000000000

/-- The seconds of a day. -/
def secondsPerDay : Int := 86400

/-- Whether one instant is no later than another. -/
def isAtMost (a b : Timestamp) : Bool :=
  a.second < b.second || (a.second == b.second && a.nano ≤ b.nano)

/-- Whole milliseconds from 1 January 1970, rounded down. -/
def millis (t : Timestamp) : Int := t.second * 1000 + (t.nano / 1000000 : Nat)

/-- The first year that can be held. -/
def firstYear : Int := -262143

/-- The last year that can be held. -/
def lastYear : Int := 262142

/-- Whether a second lies in the years that can be held. -/
def inRange (second : Int) : Bool :=
  Date.toDay ⟨firstYear, 1, 1⟩ * secondsPerDay ≤ second &&
    second < Date.toDay ⟨lastYear + 1, 1, 1⟩ * secondsPerDay

/-- The longest span of time that can be held, in days. -/
def longestSpan : Nat := 106751991167

/-- The instant `days` days after `t`, unless it leaves the years that can be held, or the days do not
make a span. Moving out of a leap second lands in an ordinary one: forward in the second that it
follows, backward in the next. -/
def addDays? (t : Timestamp) (days : Int) : Option Timestamp :=
  let start : Timestamp :=
    if t.nano < nanosPerSecond || days == 0 then t
    else if 0 < days then ⟨t.second, t.nano - nanosPerSecond⟩
    else ⟨t.second + 1, t.nano - nanosPerSecond⟩
  let second := start.second + days * secondsPerDay
  if days.natAbs ≤ longestSpan ∧ inRange second then some ⟨second, start.nano⟩ else none

end Timestamp

end Flashcard
