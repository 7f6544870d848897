/-!
# Ranges of characters

Character classes are tables of ranges of code points.

- `CharRange`: the code points from `first` to `last`.
- `CharRange.covers`: whether some range of a table holds a character.
-/

namespace Flashcard.Text

/-- The code points from `first` to `last`, both included. -/
structure CharRange where
  first : Nat
  last : Nat

/-- Whether one of the ranges of `table` holds `c`. -/
def CharRange.covers (table : List CharRange) (c : Char) : Bool :=
  table.any fun r => r.first ≤ c.toNat && c.toNat ≤ r.last

end Flashcard.Text
