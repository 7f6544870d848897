import Flashcard.Decimal.Shortest
import Mathlib.Tactic.Linarith
import Mathlib.Tactic.NormNum
import Mathlib.Tactic.Ring

/-!
# Doubles

A double is a zero, a finite number, an infinity or no number at all. Of arithmetic only this much is
needed: to change a finite number by a little, rounded as doubles are, does not make it infinite.

- `isNaN_of_isFinite`, `beq_self_of_number`: finite doubles, and comparing a number with itself.
- `isSlight`: the doubles that are little enough.

## Main statements

- `two_mul_rounded_le`: rounding goes up by at most a half.
- `isFinite_add`, `isFinite_sub`: a finite double with a slight one added or taken away is finite.
- `ofFloat_of_infinite`: the parts of an infinity, were it a finite double.
-/

namespace Flashcard.Double

open Float.Model Float.Model.UnpackedFloat

/-! ## Classes of doubles -/

/-- What is finite is a number. -/
theorem isNaN_of_isFinite {x : Float} (h : x.isFinite = true) : x.isNaN = false := by
  change x.toModel.unpack.isFinite = true at h
  show x.toModel.unpack.isNaN = false
  generalize x.toModel.unpack = u at h
  cases u with
  | infinity _ => cases h
  | notANumber => cases h
  | zero _ => rfl
  | finite _ _ _ _ => rfl

/-- A double is finite unless its exponent has all bits set. -/
theorem isFinite_unpack_iff {b : BitVec Format.binary64.numBits} :
    (unpack Format.binary64 b).isFinite = true ↔ unpackExponent b ≠ -1#_ := by
  unfold UnpackedFloat.unpack
  dsimp only
  by_cases hexponent : unpackExponent b = -1#_
  · rw [if_pos hexponent]
    refine iff_of_false ?_ fun hne => hne hexponent
    split <;> exact Bool.false_ne_true
  · rw [if_neg hexponent]
    refine iff_of_true ?_ hexponent
    by_cases hscale : unpackExponent b = 0#_
    · rw [if_pos hscale]
      by_cases hmantissa : unpackMantissa b = 0#_
      · rw [dif_pos hmantissa]
        rfl
      · rw [dif_neg hmantissa]
        rfl
    · rw [if_neg hscale]
      rfl

/-- The greatest exponent of a double. -/
def greatestExponent : Int := 971

/-- Whether an exponent, if there is one, is none too great for a double. -/
def Packable : UnpackedFloat → Prop
  | .finite _ _ exponent _ => exponent ≤ greatestExponent
  | .zero _ => True
  | _ => False

theorem packable_dite {c : Prop} [Decidable c] {a : c → UnpackedFloat} {b : ¬ c → UnpackedFloat}
    (ha : ∀ h, Packable (a h)) (hb : ∀ h, Packable (b h)) : Packable (if h : c then a h else b h) := by
  by_cases h : c
  · rw [dif_pos h]
    exact ha h
  · rw [dif_neg h]
    exact hb h

/-- What is not too great is packed as a finite double. -/
theorem isFinite_pack {u : UnpackedFloat} (h : Packable u) :
    (Float.Model.pack u).unpack.isFinite = true := by
  refine isFinite_unpack_iff.mpr ?_
  show unpackExponent (UnpackedFloat.pack Format.binary64 u) ≠ -1#_
  cases u with
  | infinity _ => exact h.elim
  | notANumber => exact h.elim
  | zero sign =>
    unfold UnpackedFloat.pack packedZero
    dsimp only
    rw [unpackExponent_packComponents]
    decide
  | finite sign mantissa exponent _ =>
    have hle : exponent ≤ 971 := h
    have hbias : Format.binary64.exponentBias = 1023 := by decide
    unfold UnpackedFloat.pack
    dsimp only
    rw [hbias]
    split
    · omega
    · next hfits =>
      split
      · rw [unpackExponent_packComponents]
        intro hones
        have hbits := congrArg BitVec.toNat hones
        rw [BitVec.toNat_ofNat] at hbits
        have hall : (-BitVec.ofNat Format.binary64.exponentBits 1).toNat = 2047 := by decide
        rw [hall] at hbits
        omega
      · rw [unpackExponent_packComponents]
        decide

/-- A finite double has a mantissa of 53 bits, and none too great an exponent. -/
theorem bounds_of_unpack {v : Float.Model} {sign : Sign} {mantissa : Nat} {exponent : Int}
    {hpos : 0 < mantissa} (h : v.unpack = .finite sign mantissa exponent hpos) :
    mantissa < 2 ^ 53 ∧ exponent ≤ 971 := by
  have hbias : Format.binary64.exponentBias = 1023 := by decide
  let fraction : BitVec 52 := @unpackMantissa Format.binary64 v.toBits.toBitVec
  let scale : BitVec 11 := @unpackExponent Format.binary64 v.toBits.toBitVec
  have hfraction : fraction.toNat < 2 ^ 52 := fraction.isLt
  have hfull : (1#1 ++ fraction).toNat < 2 ^ 53 := (1#1 ++ fraction).isLt
  have hscale : scale.toNat < 2 ^ 11 := scale.isLt
  unfold Float.Model.unpack UnpackedFloat.unpack at h
  dsimp only at h
  rw [hbias] at h
  by_cases hones : scale = -1#_
  · rw [if_pos hones] at h
    by_cases hfraction : fraction = 0#_
    · rw [if_pos hfraction] at h
      cases h
    · rw [if_neg hfraction] at h
      cases h
  · have hne : scale.toNat ≠ 2047 := fun heq => hones (BitVec.eq_of_toNat_eq heq)
    rw [if_neg hones] at h
    by_cases hzero : scale = 0#_
    · rw [if_pos hzero] at h
      have hscale : scale.toNat = 0 := congrArg BitVec.toNat hzero
      by_cases hfraction : fraction = 0#_
      · rw [dif_pos hfraction] at h
        cases h
      · rw [dif_neg hfraction] at h
        cases h
        show fraction.toNat < 2 ^ 53 ∧ (scale.toNat : Int) - (1023 + 52) + 1 ≤ 971
        omega
    · rw [if_neg hzero] at h
      cases h
      show (1#1 ++ fraction).toNat < 2 ^ 53 ∧ (scale.toNat : Int) - (1023 + 52) ≤ 971
      omega

/-! ## Rounding -/

theorem mantissa_shiftRight (em : ExtendedMantissa) (k : Nat) :
    (em >>> k).mantissa = em.mantissa / 2 ^ k := by
  induction k with
  | zero => exact (Nat.div_one _).symm
  | succ k ih =>
    show (em >>> k).mantissa / 2 = _
    rw [ih, Nat.div_div_eq_div_mul, Nat.pow_succ]

/-- The bit behind the mantissa counts a half. -/
theorem le_of_roundBit {mantissa k : Nat}
    (h : (ExtendedMantissa.ofMantissaAndAccuracy mantissa .exact >>> k).roundBit = true) :
    2 ^ k ≤ 2 * (mantissa % 2 ^ k) := by
  cases k with
  | zero => cases h
  | succ k =>
    have hbit : mantissa / 2 ^ k % 2 = 1 := by
      change ((ExtendedMantissa.ofMantissaAndAccuracy mantissa .exact >>> k).mantissa % 2 != 0) =
        true at h
      rw [mantissa_shiftRight] at h
      have hne : mantissa / 2 ^ k % 2 ≠ 0 := bne_iff_ne.mp h
      omega
    have hsplit : mantissa % 2 ^ (k + 1) = mantissa % 2 ^ k + 2 ^ k * (mantissa / 2 ^ k % 2) := by
      rw [pow_succ, Nat.mod_mul]
    rw [hsplit, hbit, pow_succ]
    omega

/-- **Rounding goes up by at most a half.** -/
theorem two_mul_rounded_le (mantissa k : Nat) :
    2 * (ExtendedMantissa.ofMantissaAndAccuracy mantissa .exact >>> k).roundedMantissa * 2 ^ k ≤
      2 * mantissa + 2 ^ k := by
  have hfloor := mantissa_shiftRight (ExtendedMantissa.ofMantissaAndAccuracy mantissa .exact) k
  have hhalf := @le_of_roundBit mantissa k
  have hsplit := Nat.div_add_mod mantissa (2 ^ k)
  change _ = mantissa / 2 ^ k at hfloor
  generalize ExtendedMantissa.ofMantissaAndAccuracy mantissa .exact >>> k = em at *
  obtain ⟨floor, roundBit, stickyBit⟩ := em
  obtain rfl : floor = mantissa / 2 ^ k := hfloor
  cases roundBit with
  | false =>
    -- what is cut off is dropped
    have hrounded : ExtendedMantissa.roundedMantissa ⟨mantissa / 2 ^ k, false, stickyBit⟩ =
        mantissa / 2 ^ k := by cases stickyBit <;> rfl
    rw [hrounded]
    calc 2 * (mantissa / 2 ^ k) * 2 ^ k = 2 * (2 ^ k * (mantissa / 2 ^ k)) := by ring
      _ ≤ 2 * mantissa + 2 ^ k := by omega
  | true =>
    have hrounded : ExtendedMantissa.roundedMantissa ⟨mantissa / 2 ^ k, true, stickyBit⟩ ≤
        mantissa / 2 ^ k + 1 := by
      cases stickyBit with
      | false =>
        show mantissa / 2 ^ k + mantissa / 2 ^ k % 2 ≤ _
        omega
      | true => exact Nat.le_refl _
    have hhalf := hhalf rfl
    calc 2 * ExtendedMantissa.roundedMantissa ⟨mantissa / 2 ^ k, true, stickyBit⟩ * 2 ^ k
        ≤ 2 * (mantissa / 2 ^ k + 1) * 2 ^ k := by gcongr
      _ = 2 * (2 ^ k * (mantissa / 2 ^ k)) + 2 * 2 ^ k := by ring
      _ ≤ 2 * mantissa + 2 ^ k := by omega

theorem targetExponent_eq (e : Int) :
    Format.binary64.targetExponent e = max (e - 53) (-1074) := by
  have hmin : Format.binary64.minExponent = -1074 := by decide
  have hbits : (Format.binary64.mantissaBits : Int) = 53 := by decide
  rw [Format.targetExponent, hmin, hbits]

/-- A mantissa that leaves half a step free takes no more than `n + 53` bits. -/
theorem log2_le_of_lt {mantissa n : Nat} (hlt : 2 * mantissa + 2 ^ n < 2 ^ (n + 54)) :
    mantissa.log2 ≤ n + 52 := by
  by_cases hzero : mantissa = 0
  · simp [hzero]
  · have hpos : 0 < 2 ^ n := Nat.two_pow_pos n
    rw [show 2 ^ (n + 54) = 2 * 2 ^ (n + 53) by ring] at hlt
    have := (Nat.log2_lt hzero).mpr (show mantissa < 2 ^ (n + 53) by omega)
    omega

section

variable {mantissa rounded k : Nat} (hround : 2 * rounded * 2 ^ k ≤ 2 * mantissa + 2 ^ k)

include hround

/-- A mantissa without `k` of its `k + 53` bits may be carried to one more bit. -/
theorem rounded_lt (hfloor : mantissa < 2 ^ (k + 53)) : rounded < 2 ^ 54 := by
  refine lt_of_mul_lt_mul_right (a := 2 ^ k) ?_ (Nat.zero_le _)
  have hsplit : 2 ^ (k + 53) = 2 ^ 53 * 2 ^ k := by ring
  have hpos : 0 < 2 ^ k := Nat.two_pow_pos k
  nlinarith

/-- It is not carried if it leaves half a step free. -/
theorem rounded_lt_of_free (hlt : 2 * mantissa + 2 ^ k < 2 ^ (k + 54)) : rounded < 2 ^ 53 := by
  refine lt_of_mul_lt_mul_right (a := 2 ^ k) ?_ (Nat.zero_le _)
  have hsplit : 2 ^ (k + 54) = 2 * (2 ^ 53 * 2 ^ k) := by ring
  nlinarith

end

/-- What lies more than half a step below `2 ^ 1024` is rounded to a double that is not too great. -/
theorem packable_roundWithAccuracy {sign : Sign} {mantissa n : Nat} {exponent : Int}
    (hexponent : exponent + n = greatestExponent) (hlt : 2 * mantissa + 2 ^ n < 2 ^ (n + 54)) :
    Packable (roundWithAccuracy Format.binary64 sign mantissa exponent .exact) := by
  have hexponent : exponent + n = 971 := hexponent
  have hlog := log2_le_of_lt hlt
  unfold roundWithAccuracy shiftToTargetExponent shiftToExponent
  dsimp only
  rw [targetExponent_eq, targetExponent_eq]
  unfold totalExponent
  generalize hk : (max ((mantissa.log2 : Int) + 1 + exponent - 53) (-1074) - exponent).toNat = k
  generalize hr : (ExtendedMantissa.ofMantissaAndAccuracy mantissa .exact >>> k).roundedMantissa = r
  have hround := two_mul_rounded_le mantissa k
  rw [hr] at hround
  -- at the greatest exponent rounding does not carry, and below it a carry does no harm
  have hcarry : (r.log2 : Int) + exponent + k ≤ 1023 := by
    by_cases hzero : r = 0
    · rw [hzero, Nat.log2_zero]
      omega
    have hkn : k ≤ n := by omega
    rcases Nat.lt_or_eq_of_le hkn with hkn | rfl
    · have hfloor : mantissa < 2 ^ (k + 53) :=
        lt_of_lt_of_le Nat.lt_log2_self (Nat.pow_le_pow_right (by decide) (by omega))
      have := (Nat.log2_lt hzero).mpr (rounded_lt hround hfloor)
      omega
    · have := (Nat.log2_lt hzero).mpr (rounded_lt_of_free hround hlt)
      omega
  refine packable_dite (fun _ => trivial) fun _ => ?_
  show _ ≤ (971 : Int)
  omega

theorem packable_round {sign : Sign} {mantissa n : Nat} {exponent : Int}
    (hexponent : exponent + n = greatestExponent) (hlt : 2 * mantissa + 2 ^ n < 2 ^ (n + 54)) :
    Packable (UnpackedFloat.round Format.binary64 sign mantissa exponent) := by
  unfold UnpackedFloat.round decreaseExponent
  dsimp only
  generalize (exponent - Format.binary64.targetExponent (totalExponent mantissa exponent)).toNat = k
  refine packable_roundWithAccuracy (n := n + k) (by push_cast; omega) ?_
  rw [Nat.shiftLeft_eq]
  have hpos : 0 < 2 ^ k := Nat.two_pow_pos k
  calc 2 * (mantissa * 2 ^ k) + 2 ^ (n + k) = (2 * mantissa + 2 ^ n) * 2 ^ k := by ring
    _ < 2 ^ (n + 54) * 2 ^ k := by gcongr
    _ = 2 ^ (n + k + 54) := by ring

theorem packable_normalize {value : Int} {n : Nat} {exponent : Int}
    (hexponent : exponent + n = greatestExponent)
    (hlt : 2 * value.natAbs + 2 ^ n < 2 ^ (n + 54)) :
    Packable (UnpackedFloat.normalize Format.binary64 value exponent .positive) := by
  unfold UnpackedFloat.normalize
  split
  · exact packable_round hexponent (by omega)
  · trivial
  · exact packable_round hexponent (by omega)

/-! ## Sums -/

/-- Whether a double lies so near to zero that its exponent is not positive. -/
def isSlight (x : Float) : Bool :=
  match x.toModel.unpack with
  | .finite _ _ exponent _ => exponent ≤ 0
  | .zero _ => true
  | _ => false

/-- The size of a sum of two mantissas that are shifted to the lesser of their exponents. -/
theorem sum_lt {a b i j n : Nat} (ha : a < 2 ^ 53) (hb : b < 2 ^ 53) (hi : i ≤ n) (hj : j + 971 ≤ n) :
    2 * (a * 2 ^ i + b * 2 ^ j) + 2 ^ n < 2 ^ (n + 54) := by
  have hle : a * 2 ^ i ≤ (2 ^ 53 - 1) * 2 ^ n :=
    Nat.mul_le_mul (by omega) (Nat.pow_le_pow_right (by decide) hi)
  have hslight : b * 2 ^ j < 2 ^ 53 * 2 ^ j := by gcongr
  have hroom : 2 ^ 53 * 2 ^ j * 2 ≤ 2 ^ n := by
    rw [← pow_add, ← pow_succ]
    exact Nat.pow_le_pow_right (by decide) (by omega)
  have hpow : 2 ^ (n + 54) = 2 ^ 54 * 2 ^ n := by ring
  rw [hpow]
  omega

variable {sign₁ sign₂ : Sign} {m₁ m₂ : Nat} {e₁ e₂ : Int} {h₁ : 0 < m₁} {h₂ : 0 < m₂}

theorem natAbs_apply (sign : Sign) (n : Nat) : (sign.apply n).natAbs = n := by
  cases sign with
  | negative => exact (Int.natAbs_neg _).trans (Int.natAbs_natCast n)
  | positive => exact Int.natAbs_natCast n

/-- A sum of a double and a slight one, of whatever signs, is none too great. -/
theorem packable_sum {value : Int} (hm₁ : m₁ < 2 ^ 53) (hm₂ : m₂ < 2 ^ 53) (he₁ : e₁ ≤ 971)
    (he₂ : e₂ ≤ 0)
    (hvalue : value.natAbs ≤
      (decreaseExponent m₁ e₁ (min e₁ e₂)).1 + (decreaseExponent m₂ e₂ (min e₁ e₂)).1) :
    Packable (UnpackedFloat.normalize Format.binary64 value (min e₁ e₂) .positive) := by
  have hn : min e₁ e₂ + ((971 - min e₁ e₂).toNat : Int) = 971 := by omega
  refine packable_normalize hn ?_
  unfold decreaseExponent at hvalue
  dsimp only at hvalue
  rw [Nat.shiftLeft_eq, Nat.shiftLeft_eq] at hvalue
  have hlt := sum_lt (i := (e₁ - min e₁ e₂).toNat) (j := (e₂ - min e₁ e₂).toNat)
    (n := (971 - min e₁ e₂).toNat) hm₁ hm₂ (by omega) (by omega)
  omega

/-- The zeros, and the finite doubles up to an exponent. -/
def Bounded (limit : Int) : UnpackedFloat → Prop
  | .finite _ mantissa exponent _ => mantissa < 2 ^ 53 ∧ exponent ≤ limit
  | .zero _ => True
  | _ => False

variable {u v : UnpackedFloat} {limit : Int} {x y : Float}

theorem Bounded.neg (h : Bounded limit v) : Bounded limit v.neg := by
  cases v with
  | infinity _ => exact h
  | notANumber => exact h
  | zero _ => exact h
  | finite _ _ _ _ => exact h

theorem bounded_of_isFinite (h : x.isFinite = true) : Bounded greatestExponent x.toModel.unpack := by
  change x.toModel.unpack.isFinite = true at h
  have hbounds := @bounds_of_unpack x.toModel
  generalize x.toModel.unpack = u at *
  cases u with
  | infinity _ => cases h
  | notANumber => cases h
  | zero _ => trivial
  | finite _ _ _ _ => exact hbounds rfl

theorem bounded_of_isSlight (h : isSlight x = true) : Bounded 0 x.toModel.unpack := by
  unfold isSlight at h
  have hbounds := @bounds_of_unpack x.toModel
  generalize x.toModel.unpack = u at *
  cases u with
  | infinity _ => cases h
  | notANumber => cases h
  | zero _ => trivial
  | finite _ _ _ _ => exact ⟨(hbounds rfl).1, of_decide_eq_true h⟩

theorem packable_add (hu : Bounded greatestExponent u) (hv : Bounded 0 v) :
    Packable (UnpackedFloat.add Format.binary64 u v) := by
  cases u with
  | infinity _ => exact hu.elim
  | notANumber => exact hu.elim
  | zero _ =>
    cases v with
    | infinity _ => exact hv.elim
    | notANumber => exact hv.elim
    | zero _ =>
      unfold UnpackedFloat.add
      dsimp only
      split <;> trivial
    | finite _ _ _ _ => exact hv.2.trans (by decide)
  | finite _ _ _ _ =>
    cases v with
    | infinity _ => exact hv.elim
    | notANumber => exact hv.elim
    | zero _ => exact hu.2
    | finite _ _ _ _ =>
      refine packable_sum hu.1 hv.1 hu.2 hv.2 ((Int.natAbs_add_le _ _).trans ?_)
      rw [natAbs_apply, natAbs_apply]
      rfl

/-- To take a double away is to add it with the other sign. -/
theorem sub_eq_add_neg (spec : Format) (u v : UnpackedFloat) :
    UnpackedFloat.sub spec u v = UnpackedFloat.add spec u v.neg := by
  cases v with
  | infinity _ => cases u <;> rfl
  | notANumber => cases u <;> rfl
  | zero _ => cases u <;> rfl
  | finite sign _ _ _ =>
    cases u with
    | infinity _ => rfl
    | notANumber => rfl
    | zero _ => rfl
    | finite _ _ _ _ =>
      unfold UnpackedFloat.sub UnpackedFloat.add UnpackedFloat.neg
      dsimp only
      refine congrArg (UnpackedFloat.normalize spec · _ .positive) ?_
      cases sign with
      | negative => exact Int.sub_neg _ _
      | positive => exact Int.sub_eq_add_neg

/-- **A finite double with a slight one added is finite.** -/
theorem isFinite_add (hx : x.isFinite = true) (hy : isSlight y = true) : (x + y).isFinite = true :=
  isFinite_pack (packable_add (bounded_of_isFinite hx) (bounded_of_isSlight hy))

/-- **A finite double with a slight one taken away is finite.** -/
theorem isFinite_sub (hx : x.isFinite = true) (hy : isSlight y = true) : (x - y).isFinite = true := by
  have h := packable_add (bounded_of_isFinite hx) (bounded_of_isSlight hy).neg
  rw [← sub_eq_add_neg] at h
  exact isFinite_pack h

/-! ## Infinities -/

/-- The parts of an infinity, were it a finite double. -/
theorem ofFloat_of_infinite (hnumber : x.isNaN = false) (hinfinite : x.isFinite = false) :
    Decimal.Binary.ofFloat x = ⟨Decimal.Binary.fullMantissa, 972⟩ := by
  have hunpack : x.toModel.unpack.isFinite = false ∧ x.toModel.unpack.isNaN = false :=
    ⟨hinfinite, hnumber⟩
  have hones : @unpackExponent Format.binary64 x.toBits.toBitVec = -1#_ := by
    by_contra hne
    exact absurd (isFinite_unpack_iff.mpr hne) (Bool.eq_false_iff.mp hunpack.1)
  have hzero : @unpackMantissa Format.binary64 x.toBits.toBitVec = 0#_ := by
    by_contra hne
    have hnumber := hunpack.2
    unfold Float.Model.unpack UnpackedFloat.unpack at hnumber
    change @unpackExponent Format.binary64 x.toModel.toBits.toBitVec = -1#_ at hones
    change ¬ @unpackMantissa Format.binary64 x.toModel.toBits.toBitVec = 0#_ at hne
    dsimp only at hnumber
    rw [if_pos hones, if_neg hne] at hnumber
    cases hnumber
  have hscale : x.toBits.toNat / 2 ^ 52 % 2 ^ 11 = 2047 := by
    have hbits := congrArg BitVec.toNat hones
    simpa [unpackExponent, Nat.shiftRight_eq_div_pow] using hbits
  have hfraction : x.toBits.toNat % 2 ^ 52 = 0 := by
    have hbits := congrArg BitVec.toNat hzero
    simpa [unpackMantissa] using hbits
  unfold Decimal.Binary.ofFloat Decimal.Binary.fullMantissa
  dsimp only
  change x.toBits.toNat / 0x10000000000000 % 0x800 = 2047 at hscale
  change x.toBits.toNat % 0x10000000000000 = 0 at hfraction
  rw [hscale, hfraction]
  rfl

end Flashcard.Double
