/-!
# Decimal numbers in text

- `digitsValue`: the number that decimal digits stand for.
-/

namespace Flashcard.Text

/-- The number that a list of the digits 0 to 9 stands for. -/
def digitsValue (digits : List Char) : Nat :=
  digits.foldl (fun n c => 10 * n + (c.toNat - '0'.toNat)) 0

end Flashcard.Text
