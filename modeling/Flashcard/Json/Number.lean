import Flashcard.Decimal.Shortest
import Flashcard.Json.Value
import Flashcard.Text.Decimal

/-!
# Numbers in JSON

A double is written by its shortest decimal, positional between `10 ^ -5` and `10 ^ 16`. A decimal
is read in two steps, each of which rounds, so what is read can differ from the nearest double, and
from the double that was written, in its last bits.

- `renderFloat`: the text of a double. `readNumber`: the number at the start of a text.
- `scaledDouble`: the two steps.
- `throughText`, `throughText?`: what is read of a double that was written.
-/

namespace Flashcard.Json

/-! ## Writing -/

/-- The text of a decimal with its digits. -/
def renderScaled (digits : List Char) (exponent : Int) : String :=
  let count : Int := digits.length
  let point := count + exponent
  let zeros (n : Int) : List Char := List.replicate n.toNat '0'
  let chars :=
    if 0 ≤ exponent ∧ point ≤ 16 then digits ++ zeros exponent ++ ['.', '0']
    else if 0 < point ∧ point ≤ 16 then
      digits.take point.toNat ++ '.' :: digits.drop point.toNat
    else if -5 < point ∧ point ≤ 0 then '0' :: '.' :: (zeros (-point) ++ digits)
    else
      let tail := digits.drop 1
      digits.take 1 ++ (if tail.isEmpty then [] else '.' :: tail) ++
        'e' :: (toString (point - 1)).toList
  String.ofList chars

/-- A number; what is not a finite number has no form of its own and is `null`. -/
def renderFloat (x : Float) : String :=
  if !x.isFinite then "null"
  else
    let sign := if x.toBits.toNat < 0x8000000000000000 then "" else "-"
    let b := Decimal.Binary.ofFloat x
    if b.mantissa = 0 then sign ++ "0.0"
    else
      let s := b.shortest
      sign ++ renderScaled (Nat.toDigits 10 s.digits) s.exponent

/-! ## From digits to a double -/

/-- Takes digits up into a number as long as it fits 64 bits, and gives those that it leaves. -/
def takeDigits (value : Nat) : List Char → Nat × List Char
  | [] => (value, [])
  | c :: cs =>
    let next := 10 * value + (c.toNat - '0'.toNat)
    if next < intLimit then takeDigits next cs else (value, c :: cs)

/-- The greatest power of ten that a double can hold. -/
def maxPower : Nat := 308

/-- A power of ten, as the double nearest to it. -/
def powerOfTen (n : Nat) : Float := Float.ofScientific 1 false n

/-- The double for `mantissa * 10 ^ exponent`, where the mantissa fits 64 bits. First the mantissa
is rounded to a double, then this is multiplied or divided by a power of ten. A negative power that
a double cannot hold is divided by in two parts; beyond these nothing but zero is left. -/
def scaledDouble (mantissa : Nat) (exponent : Int) : Float :=
  let x := (UInt64.ofNat mantissa).toFloat
  if mantissa = 0 then 0.0
  else if 0 ≤ exponent then
    if exponent ≤ maxPower then x * powerOfTen exponent.toNat else 1.0 / 0.0
  else if exponent.natAbs ≤ maxPower then x / powerOfTen exponent.natAbs
  else if exponent.natAbs ≤ 2 * maxPower then
    x / powerOfTen maxPower / powerOfTen (exponent.natAbs - maxPower)
  else 0.0

/-- The double for the digits before and after the point and an exponent. Digits before the point
that do not fit the mantissa count in the exponent only, and those after it not at all. -/
def doubleOf (whole fraction : List Char) (exponent : Int) : Float :=
  let (mantissa, wholeRest) := takeDigits 0 whole
  let (mantissa, fractionRest) := takeDigits mantissa fraction
  scaledDouble mantissa
    (exponent + wholeRest.length - (fraction.length - fractionRest.length : Nat))

/-! ## Reading -/

/-- Reads the fraction digits after a decimal point, if there is one. -/
def readFraction : List Char → Option (List Char × List Char)
  | '.' :: rest =>
    let digits := rest.takeWhile Char.isDigit
    if digits.isEmpty then none else some (digits, rest.drop digits.length)
  | cs => some ([], cs)

/-- Reads the exponent of a number, if there is one. -/
def readExponent : List Char → Option (Option Int × List Char)
  | c :: rest =>
    if c = 'e' ∨ c = 'E' then
      let (negative, rest) : Bool × List Char :=
        match rest with
        | '-' :: rest => (true, rest)
        | '+' :: rest => (false, rest)
        | rest => (false, rest)
      let digits := rest.takeWhile Char.isDigit
      let value : Int := Text.digitsValue digits
      if digits.isEmpty then none
      else some (some (if negative then -value else value), rest.drop digits.length)
    else some (none, c :: rest)
  | [] => some (none, [])

/-- Reads a number without its sign. -/
def readUnsigned (negative : Bool) (cs : List Char) : Option (Json × List Char) := do
  let whole := cs.takeWhile Char.isDigit
  if whole.isEmpty ∨ (1 < whole.length ∧ whole.head? = some '0') then none
  let (fraction, rest) ← readFraction (cs.drop whole.length)
  let (exponent, rest) ← readExponent rest
  let magnitude : Int := Text.digitsValue whole
  let value := if negative then -magnitude else magnitude
  if fraction.isEmpty ∧ exponent.isNone ∧ minInt ≤ value ∧ value < intLimit ∧
      ¬(negative ∧ magnitude = 0) then
    some (.int value, rest)
  else
    let x := doubleOf whole fraction (exponent.getD 0)
    some (.float (if negative then -x else x), rest)

/-- Reads a number. -/
def readNumber : List Char → Option (Json × List Char)
  | '-' :: rest => readUnsigned true rest
  | rest => readUnsigned false rest

/-- What is read of a finite double that was written. -/
def throughText (x : Float) : Float :=
  match readNumber (renderFloat x).toList with
  | some (.float y, _) => if y.isFinite then y else x
  | _ => x

/-- What is read of a double that was written. What is not finite is written as `null`, of which no
double is read. -/
def throughText? (x : Float) : Option Float :=
  if x.isFinite then some (throughText x) else none

end Flashcard.Json
