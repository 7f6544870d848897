import Flashcard.Template.Token
import Flashcard.Text.Decimal
import Flashcard.SortedMap

/-!
# Cloze markers

A cloze text hides parts of itself: `c`, a number, two colons, the hidden answer, and perhaps two
more colons and a hint, all in double braces. Each number gives one card.

- `Marker`: a hidden part. `Marker.parse?`: the marker that the inside of a tag is.
- `ordinals`: the numbers of a text, each of which gives a card.
-/

namespace Flashcard.Cloze

open Template (Token tokenize)

/-- A hidden part of a text. -/
structure Marker where
  /-- Its number; `none` when it is too large for one. -/
  ordinal : Option UInt32
  answer : List Char
  hint : Option (List Char)
  deriving Repr, DecidableEq

/-- Splits characters at the first double colon, if there is one. -/
def splitHint : List Char → List Char × Option (List Char)
  | ':' :: ':' :: rest => ([], some rest)
  | c :: rest =>
    let (answer, hint) := splitHint rest
    (c :: answer, hint)
  | [] => ([], none)

/-- The number that digits stand for, if it fits 32 bits. -/
def ordinalOf? (digits : List Char) : Option UInt32 :=
  let n := Text.digitsValue digits
  if n < 0x100000000 then some (UInt32.ofNat n) else none

/-- The marker that the inside of a tag is, if it is one. Only the digits 0 to 9 make a number
here. -/
def Marker.parse? : List Char → Option Marker
  | 'c' :: rest =>
    let digits := rest.takeWhile Char.isDigit
    match digits, rest.drop digits.length with
    | _ :: _, ':' :: ':' :: body =>
      let (answer, hint) := splitHint body
      some ⟨ordinalOf? digits, answer, hint⟩
    | _, _ => none
  | _ => none

/-- The marker that a token is, if it is one. -/
def markerOf? : Token → Option Marker
  | .tag inner => Marker.parse? inner
  | .text _ => none

/-- The positive numbers of the markers of a text, ascending and without repetition. -/
def ordinals (text : String) : List UInt32 :=
  let found := ((tokenize text).filterMap markerOf?).filterMap (·.ordinal)
  (SortedMap.ofList ((found.filter (0 < ·)).map fun n => (n, ()))).keys

end Flashcard.Cloze
