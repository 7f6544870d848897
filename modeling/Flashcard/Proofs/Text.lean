import Flashcard.Text.Blank
import Flashcard.Text.Decimal
import Flashcard.Text.Digit
import Mathlib.Algebra.Ring.Nat
import Mathlib.Data.List.Basic
import Mathlib.Data.List.Induction
import Mathlib.Data.List.TakeWhile

/-!
# Trimmed texts and decimal numbers

- `Text.trimChars_append`, `Text.trimChars_surrounded`, `Text.mem_of_mem_trimChars`: what trimming
  leaves.
- `Text.trim_eq_empty_iff`: the texts of which it leaves nothing.
- `Text.isDigit_of_ascii`, `Text.digitsValue_toDigits`: the digits of a number.
-/

namespace Flashcard.Text

/-! ## Trimming -/

theorem trimStart_suffix (cs : List Char) : trimStart cs <:+ cs := List.dropWhile_suffix _

theorem length_trimEnd_le (cs : List Char) : (trimEnd cs).length ≤ cs.length := by
  have hlength : cs.reverse.length = cs.length := List.length_reverse
  rw [trimEnd, List.length_reverse, ← hlength]
  exact (List.dropWhile_suffix isBlank).length_le

theorem length_trimChars_le (cs : List Char) : (trimChars cs).length ≤ cs.length :=
  (length_trimEnd_le _).trans (trimStart_suffix cs).length_le

/-- A trimmed text begins and ends without blanks. -/
theorem trimEnd_eq_self {name : List Char} (h : trimChars name = name) : trimEnd name = name := by
  have hstart : trimStart name = name := by
    refine (trimStart_suffix name).eq_of_length (Nat.le_antisymm (trimStart_suffix name).length_le ?_)
    have hle := length_trimEnd_le (trimStart name)
    rwa [← trimChars, h] at hle
  rwa [trimChars, hstart] at h

/-- A trimmed name stays trimmed behind the start of a tag. -/
theorem trimChars_append {c : Char} {start name : List Char} (hc : isBlank c = false)
    (hne : name ≠ []) (h : trimChars name = name) :
    trimChars (c :: start ++ name) = c :: start ++ name := by
  have hname : name.reverse.dropWhile isBlank = name.reverse := by
    rw [← List.reverse_inj, List.reverse_reverse]
    exact trimEnd_eq_self h
  have hnonempty : (name.reverse.dropWhile isBlank).isEmpty = false := by
    rw [hname]
    simpa using hne
  have hstart : trimStart (c :: start ++ name) = c :: start ++ name :=
    List.dropWhile_cons_of_neg (by simp [hc])
  rw [trimChars, hstart, trimEnd, List.reverse_append, List.dropWhile_append, hnonempty,
    if_neg Bool.false_ne_true, hname, ← List.reverse_append, List.reverse_reverse]

/-- Trimming takes away the blanks around what begins and ends without one. -/
theorem trimChars_surrounded {front middle back : List Char} {first last : Char}
    (hfront : ∀ c ∈ front, isBlank c = true) (hback : ∀ c ∈ back, isBlank c = true)
    (hfirst : isBlank first = false) (hlast : isBlank last = false) :
    trimChars (front ++ (first :: middle ++ [last]) ++ back) = first :: middle ++ [last] := by
  have hstart : trimStart (front ++ (first :: middle ++ [last]) ++ back) =
      first :: middle ++ [last] ++ back := by
    rw [trimStart, List.append_assoc, List.dropWhile_append_of_pos hfront]
    exact List.dropWhile_cons_of_neg (by rw [hfirst]; decide)
  have hreverse : (first :: middle ++ [last] ++ back).reverse =
      back.reverse ++ last :: (first :: middle).reverse := by
    rw [List.reverse_append, List.reverse_concat]
  have hend : (back.reverse ++ last :: (first :: middle).reverse).dropWhile isBlank =
      last :: (first :: middle).reverse := by
    rw [List.dropWhile_append_of_pos fun c hc => hback c (List.mem_reverse.mp hc)]
    exact List.dropWhile_cons_of_neg (by rw [hlast]; decide)
  rw [trimChars, hstart, trimEnd, hreverse, hend, List.reverse_cons, List.reverse_reverse]

/-- Trimming takes away blanks only. -/
theorem mem_of_mem_trimChars {c : Char} {cs : List Char} (hc : isBlank c = false) (h : c ∈ cs) :
    c ∈ trimChars cs := by
  have hdrop : ∀ {cs : List Char}, c ∈ cs → c ∈ cs.dropWhile isBlank := by
    intro cs hmem
    rw [← List.takeWhile_append_dropWhile (p := isBlank) (l := cs)] at hmem
    rcases List.mem_append.mp hmem with hblank | hmem
    · rw [List.mem_takeWhile_imp hblank] at hc
      cases hc
    · exact hmem
  exact List.mem_reverse.mpr (hdrop (List.mem_reverse.mpr (hdrop h)))

/-- Trimming leaves nothing of blanks, and of nothing else. -/
theorem trim_eq_empty_iff {s : String} : trim s = "" ↔ allBlank s = true := by
  rw [trim, String.ofList_eq_empty_iff, allBlank, List.all_eq_true]
  constructor
  · intro hnil c hc
    by_contra hblank
    have hleft := mem_of_mem_trimChars (Bool.eq_false_iff.mpr hblank) hc
    rw [hnil] at hleft
    cases hleft
  · intro hall
    have hstart : trimStart s.toList = [] := List.dropWhile_eq_nil_iff.mpr hall
    rw [trimChars, hstart]
    rfl

/-! ## Decimal numbers -/

/-- The digits 0 to 9 are digits of a script. -/
theorem isDigit_of_ascii {c : Char} (h : c.isDigit) : isDigit c := by
  obtain ⟨hfirst, hlast⟩ := Char.isDigit_iff_toNat.mp h
  have hcovers : (0x30 ≤ c.toNat && c.toNat ≤ 0x39) = true := by
    rw [Bool.and_eq_true, decide_eq_true_eq, decide_eq_true_eq]
    exact ⟨hfirst, hlast⟩
  rw [isDigit, CharRange.covers, digitTable, List.any_cons, hcovers, Bool.true_or]

/-- The value of digits, as the library has it. -/
theorem digitsValue_eq (digits : List Char) : digitsValue digits = Nat.ofDigitChars 10 digits 0 :=
  Nat.ofDigitChars_eq_foldl.symm

theorem digitsValue_toDigits (n : Nat) : digitsValue (Nat.toDigits 10 n) = n := by
  rw [digitsValue_eq, Nat.ofDigitChars_ten_toDigits]

theorem digitsValue_lt {digits : List Char} (h : ∀ c ∈ digits, c.isDigit = true) :
    digitsValue digits < 10 ^ digits.length := by
  induction digits using List.reverseRecOn with
  | nil => decide
  | append_singleton front c ih =>
    have hfront := ih fun d hd => h d (List.mem_append_left _ hd)
    have hc : c.toNat - '0'.toNat ≤ 9 := by
      have hdigit := h c (List.mem_append_right _ (List.mem_singleton.mpr rfl))
      exact Nat.sub_le_sub_right (Char.isDigit_iff_toNat.mp hdigit).2 _
    rw [digitsValue, List.foldl_concat, List.length_append, List.length_singleton, Nat.pow_succ,
      ← digitsValue]
    omega

end Flashcard.Text
