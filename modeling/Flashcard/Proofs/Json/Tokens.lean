import Flashcard.Json.Printer
import Flashcard.Json.Reader
import Flashcard.Proofs.Text

/-!
# Strings and integers in JSON

What is written of a string or of an integer is read as it, whatever stands behind it, as long as this
does not go on with the number.

- `readString_quoted`: strings, character by character.
- `EndsNumber`: what may stand behind a number.
- `readNumber_toString`: integers.
-/

namespace Flashcard.Json

/-- What each element of a list is read back from, the list is read back from. -/
theorem mapM_map_eq_some {α β : Type} {f : β → Option α} {g : α → β} (h : ∀ a, f (g a) = some a)
    (l : List α) : (l.map g).mapM f = some l := by
  induction l with
  | nil => rfl
  | cons a l ih =>
    rw [List.map_cons, List.mapM_cons, h, ih]
    rfl

/-! ## Strings -/

theorem hexDigit?_hexDigits : ∀ n < 16, hexDigit? (hexDigits.getD n '0') = some n := by decide

/-- The escape of a control character. -/
theorem readUnicodeEscape_control {c : Char} (h : c.toNat < 0x20) (rest : List Char) :
    readUnicodeEscape ('0' :: '0' :: hexDigits.getD (c.toNat / 16) '0' ::
      hexDigits.getD (c.toNat % 16) '0' :: rest) = some (some c, rest) := by
  have hzero : hexDigit? '0' = some 0 := by decide
  have hunit : readHex4 ('0' :: '0' :: hexDigits.getD (c.toNat / 16) '0' ::
      hexDigits.getD (c.toNat % 16) '0' :: rest) = some (c.toNat, rest) := by
    rw [readHex4, hzero, hexDigit?_hexDigits _ (by omega), hexDigit?_hexDigits _ (by omega)]
    show some (0 * 256 + (c.toNat / 16 * 16 + c.toNat % 16), rest) = some (c.toNat, rest)
    rw [show 0 * 256 + (c.toNat / 16 * 16 + c.toNat % 16) = c.toNat by omega]
  rw [readUnicodeEscape, hunit]
  show (if 0xD800 ≤ c.toNat ∧ c.toNat < 0xDC00 then _
    else if 0xDC00 ≤ c.toNat ∧ c.toNat < 0xE000 then _ else _) = _
  rw [if_neg (by omega), if_neg (by omega), Char.ofNat_toNat]

section Characters

variable {c : Char} {cs rest : List Char} (bound : Nat)

theorem readCharacters_escaped (h : readEscape cs = some (some c, rest)) :
    readCharacters (bound + 1) ('\\' :: cs) =
      (readCharacters bound rest).map fun (cs, rest) => (some c :: cs, rest) := by
  rw [readCharacters, if_neg (by decide), if_pos rfl, h]
  cases hrest : readCharacters bound rest <;> simp [hrest]

theorem readCharacters_plain (hquote : c ≠ '"') (hslash : c ≠ '\\') (hcontrol : ¬ c.toNat < 0x20) :
    readCharacters (bound + 1) (c :: rest) =
      (readCharacters bound rest).map fun (cs, rest) => (some c :: cs, rest) := by
  rw [readCharacters, if_neg hquote, if_neg hslash, if_neg hcontrol]
  cases readCharacters bound rest <;> rfl

/-- **Each character** is read back from what stands for it. -/
theorem readCharacters_escape (c : Char) (rest : List Char) :
    readCharacters (bound + 1) (escape c ++ rest) =
      (readCharacters bound rest).map fun (cs, rest) => (some c :: cs, rest) := by
  unfold escape
  split
  · subst_vars
    exact readCharacters_escaped bound rfl
  rename_i hquote
  split
  · subst_vars
    exact readCharacters_escaped bound rfl
  rename_i hslash
  iterate 5
    split
    · subst_vars
      exact readCharacters_escaped bound rfl
  split
  · rename_i hcontrol
    exact readCharacters_escaped bound (readUnicodeEscape_control hcontrol rest)
  · rename_i hcontrol
    exact readCharacters_plain bound hquote hslash hcontrol

end Characters

/-- The characters of a string up to its closing quote. -/
theorem readCharacters_quoted (cs rest : List Char) {bound : Nat} (h : cs.length < bound) :
    readCharacters bound (cs.flatMap escape ++ '"' :: rest) = some (cs.map some, rest) := by
  induction cs generalizing bound with
  | nil =>
    cases bound with
    | zero => omega
    | succ bound => rfl
  | cons c cs ih =>
    cases bound with
    | zero => omega
    | succ bound =>
      rw [List.flatMap_cons, List.append_assoc, readCharacters_escape, ih (Nat.lt_of_succ_lt_succ h)]
      rfl

/-- **A string** is read back. -/
theorem readString_quoted (s : String) (rest : List Char) :
    readString (s.toList.flatMap escape ++ '"' :: rest) = some (some s, rest) := by
  have hlength : s.toList.length ≤ (s.toList.flatMap escape).length := by
    induction s.toList with
    | nil => exact Nat.le_refl 0
    | cons c cs ih =>
      have hescape : 0 < (escape c).length := by
        unfold escape
        repeat' split
        all_goals exact Nat.zero_lt_succ _
      rw [List.flatMap_cons, List.length_append, List.length_cons]
      omega
  have hbound : s.toList.length < (s.toList.flatMap escape ++ '"' :: rest).length := by
    rw [List.length_append, List.length_cons]
    omega
  have hall : (s.toList.map some).mapM id = some s.toList :=
    mapM_map_eq_some (f := id) (g := some) (fun _ => rfl) _
  rw [readString, readCharacters_quoted s.toList rest hbound]
  show some (((s.toList.map some).mapM id).map String.ofList, rest) = some (some s, rest)
  rw [hall, Option.map_some, String.ofList_toList]

/-! ## Integers -/

/-- What may stand behind a number. -/
def EndsNumber (rest : List Char) : Prop :=
  ∀ c ∈ rest.head?, c.isDigit = false ∧ c ≠ '.' ∧ c ≠ 'e' ∧ c ≠ 'E'

theorem takeWhile_isDigit {digits rest : List Char} (hdigits : ∀ c ∈ digits, c.isDigit = true)
    (ends : EndsNumber rest) : (digits ++ rest).takeWhile Char.isDigit = digits := by
  rw [List.takeWhile_append_of_pos hdigits]
  cases rest with
  | nil => simp
  | cons c rest => simp [(ends c rfl).1]

theorem readFraction_of_ends {rest : List Char} (ends : EndsNumber rest) :
    readFraction rest = some ([], rest) := by
  unfold readFraction
  split
  · exact absurd rfl (ends '.' rfl).2.1
  · rfl

theorem readExponent_of_ends {rest : List Char} (ends : EndsNumber rest) :
    readExponent rest = some (none, rest) := by
  cases rest with
  | nil => rfl
  | cons c rest =>
    obtain ⟨-, -, he, hE⟩ := ends c rfl
    unfold readExponent
    exact if_neg (not_or.mpr ⟨he, hE⟩)

/-- Digits do not begin with a zero that means nothing. -/
theorem head?_toDigits {n : Nat} (hn : n ≠ 0) : (Nat.toDigits 10 n).head? ≠ some '0' := by
  induction n using Nat.strongRecOn with
  | ind n ih =>
    by_cases hsmall : n < 10
    · rw [Nat.toDigits_of_lt_base hsmall]
      intro h
      exact hn (Nat.digitChar_eq_zero.mp (Option.some.inj h))
    · rw [Nat.toDigits_of_base_le (by decide) (Nat.le_of_not_lt hsmall),
        List.head?_append_of_ne_nil _ Nat.toDigits_ne_nil]
      exact ih (n / 10) (by omega) (by omega)

/-- The digits of a number are read as an integer, if it is one of those that are held. -/
theorem readUnsigned_toDigits {negative : Bool} {n : Nat} {rest : List Char} {value : Int}
    (hvalue : value = if negative then -(n : Int) else n) (hmin : minInt ≤ value)
    (hmax : value < intLimit) (hzero : ¬ (negative = true ∧ (n : Int) = 0)) (ends : EndsNumber rest) :
    readUnsigned negative (Nat.toDigits 10 n ++ rest) = some (.int value, rest) := by
  have hdigits : ∀ c ∈ Nat.toDigits 10 n, c.isDigit = true :=
    fun c hc => Nat.isDigit_of_mem_toDigits (by decide) (by decide) hc
  have hplain : ¬ ((Nat.toDigits 10 n).isEmpty = true ∨
      (1 < (Nat.toDigits 10 n).length ∧ (Nat.toDigits 10 n).head? = some '0')) := by
    rintro (hempty | ⟨hlong, hhead⟩)
    · exact Nat.toDigits_ne_nil (List.isEmpty_iff.mp hempty)
    · by_cases hn : n = 0
      · subst hn
        exact absurd hlong (by decide)
      · exact head?_toDigits hn hhead
  unfold readUnsigned
  dsimp only
  rw [takeWhile_isDigit hdigits ends, if_neg hplain, List.drop_left, readFraction_of_ends ends]
  show (readExponent rest >>= _) = _
  rw [readExponent_of_ends ends]
  have hmagnitude : (Text.digitsValue (Nat.toDigits 10 n) : Int) = n := by
    rw [Text.digitsValue_toDigits]
  show (if _ ∧ _ ∧ minInt ≤ (if negative then -(Text.digitsValue _ : Int) else Text.digitsValue _) ∧ _ ∧ _
    then _ else _) = _
  rw [hmagnitude, ← hvalue]
  exact if_pos ⟨rfl, rfl, hmin, hmax, hzero⟩

theorem exists_toDigits (n : Nat) : ∃ c cs, Nat.toDigits 10 n = c :: cs ∧ c.isDigit = true := by
  cases hdigits : Nat.toDigits 10 n with
  | nil => exact absurd hdigits Nat.toDigits_ne_nil
  | cons c cs =>
    have hmem : c ∈ Nat.toDigits 10 n := hdigits ▸ List.mem_cons_self
    exact ⟨c, cs, rfl, Nat.isDigit_of_mem_toDigits (by decide) (by decide) hmem⟩

theorem toList_toString_ofNat (n : Nat) : (toString (Int.ofNat n)).toList = Nat.toDigits 10 n := by
  show n.repr.toList = _
  rw [Nat.repr_eq_ofList_toDigits, String.toList_ofList]

theorem toList_toString_negSucc (n : Nat) :
    (toString (Int.negSucc n)).toList = '-' :: Nat.toDigits 10 (n + 1) := by
  show ("-" ++ (n + 1).repr).toList = _
  simp only [String.toList_append, Nat.repr_eq_ofList_toDigits, String.toList_ofList]
  rfl

/-- An integer begins with a digit, or with a sign. -/
theorem exists_toString (n : Int) :
    ∃ c cs, (toString n).toList = c :: cs ∧ (c = '-' ∨ c.isDigit = true) := by
  cases n with
  | ofNat n =>
    obtain ⟨c, cs, hdigits, hc⟩ := exists_toDigits n
    exact ⟨c, cs, (toList_toString_ofNat n).trans hdigits, .inr hc⟩
  | negSucc n => exact ⟨_, _, toList_toString_negSucc n, .inl rfl⟩

/-- **An integer** is read back. -/
theorem readNumber_toString {n : Int} {rest : List Char} (hmin : minInt ≤ n) (hmax : n < intLimit)
    (ends : EndsNumber rest) : readNumber ((toString n).toList ++ rest) = some (.int n, rest) := by
  cases n with
  | negSucc n =>
    rw [toList_toString_negSucc]
    exact readUnsigned_toDigits rfl hmin hmax (fun h => by omega) ends
  | ofNat n =>
    have hread : readUnsigned false (Nat.toDigits 10 n ++ rest) = some (.int (Int.ofNat n), rest) :=
      readUnsigned_toDigits rfl hmin hmax (fun h => Bool.false_ne_true h.1) ends
    obtain ⟨c, cs, hdigits, hc⟩ := exists_toDigits n
    rw [toList_toString_ofNat, ← hread, hdigits]
    -- no digit is a sign
    unfold readNumber
    split
    · rename_i heq
      obtain ⟨rfl, -⟩ := List.cons.inj heq
      cases hc
    · rfl

end Flashcard.Json
