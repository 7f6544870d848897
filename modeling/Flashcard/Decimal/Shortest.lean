/-!
# The shortest decimal of a double

A double stands for all reals that round to it. Its shortest decimal is the one of fewest digits
among these reals, and of two the nearer one, or the even one if they are equally near.

- `Binary`: a positive double as a fraction. `Binary.ofFloat`: its parts.
- `Binary.shortest`: the digits and the exponent of its shortest decimal.
-/

namespace Flashcard.Decimal

/-- The value `mantissa * 2 ^ exponent` of a positive double. -/
structure Binary where
  mantissa : Nat
  exponent : Int
  deriving Repr, DecidableEq

/-- A decimal `digits * 10 ^ exponent`. -/
structure Scaled where
  digits : Nat
  exponent : Int
  deriving Repr, DecidableEq

namespace Binary

/-- The least mantissa of a double that uses all of its 53 bits. -/
def fullMantissa : Nat := 0x10000000000000

/-- The parts of the absolute value of a finite double. -/
def ofFloat (x : Float) : Binary :=
  let bits := x.toBits.toNat
  let fraction := bits % fullMantissa
  let scale : Nat := bits / fullMantissa % 0x800
  if scale = 0 then ⟨fraction, -1074⟩ else ⟨fraction + fullMantissa, (scale : Int) - 1075⟩

/-- A fraction of natural numbers, as numerator and denominator. -/
def ratio (n : Nat) (base : Nat) (exponent : Int) : Nat × Nat :=
  if 0 ≤ exponent then (n * base.pow exponent.toNat, 1) else (n, base.pow exponent.natAbs)

/-- Four times the value, as a fraction. The limits of rounding are whole quarters of a step
away. -/
def quadruple (b : Binary) (quarters : Int) : Nat × Nat :=
  ratio ((4 * b.mantissa : Nat) + quarters).toNat 2 b.exponent

/-- The quarters of a step down to the lower limit of rounding: two, but one where the doubles below
lie closer together. -/
def below (b : Binary) : Int := if b.mantissa = fullMantissa ∧ -1074 < b.exponent then 1 else 2

/-- Whether one fraction is less than another. -/
def less (a b : Nat × Nat) : Bool := a.1 * b.2 < b.1 * a.2

/-- Whether a decimal rounds to the double; a limit itself does if the mantissa is even. -/
def holds (b : Binary) (s : Scaled) : Bool :=
  let value := ratio (4 * s.digits) 10 s.exponent
  let low := b.quadruple (-b.below)
  let high := b.quadruple 2
  if b.mantissa % 2 = 0 then !less value low && !less high value
  else less low value && less value high

/-- The whole number of steps `10 ^ exponent` in the value. -/
def steps (b : Binary) (exponent : Int) : Nat :=
  let value := ratio b.mantissa 2 b.exponent
  let unit := ratio 1 10 exponent
  value.1 * unit.2 / (value.2 * unit.1)

/-- Whether the value is nearer to `n` steps than to the next number of them; halfway between the
two the even one counts as nearer. -/
def nearer (b : Binary) (n : Nat) (exponent : Int) : Bool :=
  let middle := ratio (2 * (2 * n + 1)) 10 exponent
  if n % 2 = 0 then !less middle (b.quadruple 0) else less (b.quadruple 0) middle

/-- The decimal with steps of `10 ^ exponent` that rounds to the double and is nearest to it. -/
def onGrid? (b : Binary) (exponent : Int) : Option Scaled :=
  let n := b.steps exponent
  let down : Scaled := ⟨n, exponent⟩
  let up : Scaled := ⟨n + 1, exponent⟩
  match b.holds down, b.holds up with
  | true, true => some (if b.nearer n exponent then down else up)
  | true, false => some down
  | false, true => some up
  | false, false => none

/-- The place of the first digit of the value: one more than the whole part of its logarithm. -/
def place (b : Binary) : Int :=
  let guess : Int := ((b.mantissa.log2 : Int) + b.exponent) * 30103 / 100000
  if b.steps (guess + 1) = 0 then guess + 1 else guess + 2

/-- The shortest decimal, tried with ever more digits; seventeen are always enough. -/
def shortestFrom (b : Binary) : (tries digits : Nat) → Scaled
  | 0, digits => ⟨b.steps (b.place - digits), b.place - digits⟩
  | tries + 1, digits =>
    match b.onGrid? (b.place - digits) with
    | some s => s
    | none => b.shortestFrom tries (digits + 1)

/-- A decimal without a last zero among its digits. Rounding up to a power of ten is the only way in
which a shortest decimal comes to have one. -/
def withoutZero (s : Scaled) : Scaled :=
  if s.digits = 10 then ⟨1, s.exponent + 1⟩ else s

/-- The shortest decimal that rounds to the double. -/
def shortest (b : Binary) : Scaled := withoutZero (b.shortestFrom 17 1)

end Binary

end Flashcard.Decimal
