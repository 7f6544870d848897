import Flashcard.Proofs.Cloze.Grammar
import Flashcard.Proofs.Cloze.Numbers

/-!
# Cloze markers as they are written

A hidden part that is written into a text is read as it was meant: the scanner takes it for one tag, the
parser finds its number, answer and hint, and its card hides it and shows it again.

- `written`: a part as it is written, without the braces around it.
- `Writable`: the parts that are read as they are written.

## Main statements

- `splitHint_append`: where the answer ends and the hint begins.
- `Writable.isMarker`, `Writable.parse?_written`: a written part for the scanner, and for the parser.
- `written_reads_back`: a text that is one written part.
-/

namespace Flashcard.Cloze

open Template (Token tokenize closing IsMarker IsTag EndsAtFirst)

/-! ## Answers and hints -/

section Split

variable {c : Char} {cs answer rest : List Char}

theorem splitHint_cons (h : ¬ [':', ':'] <+: c :: rest) :
    splitHint (c :: rest) = (c :: (splitHint rest).1, (splitHint rest).2) := by
  rw [splitHint]
  rintro rest' rfl rfl
  exact h (by simp)

/-- Without two colons all is the answer. -/
theorem splitHint_of_unsplit (h : ¬ [':', ':'] <:+: answer) : splitHint answer = (answer, none) := by
  induction answer with
  | nil => rfl
  | cons c answer ih =>
    rw [splitHint_cons fun hbegins => h hbegins.isInfix, ih fun hlater => h (hlater.trans ?_)]
    exact (List.suffix_cons c answer).isInfix

/-- **The hint begins behind the first two colons**, if the answer neither has two nor ends with one. -/
theorem splitHint_append (unsplit : ¬ [':', ':'] <:+: answer) (apart : ¬ [':'] <:+ answer) :
    splitHint (answer ++ ':' :: ':' :: rest) = (answer, some rest) := by
  induction answer with
  | nil => rfl
  | cons c answer ih =>
    have hsuffix : answer <:+ c :: answer := List.suffix_cons c answer
    have hbegins : ¬ [':', ':'] <+: c :: (answer ++ ':' :: ':' :: rest) := by
      cases answer with
      | nil =>
        -- the last colon of an answer would make two with the first one behind it
        rintro hcolon
        obtain rfl : ':' = c := (List.cons_prefix_cons.mp hcolon).1
        exact apart List.suffix_rfl
      | cons d answer =>
        intro hcolon
        simp only [List.cons_append, List.cons_prefix_cons] at hcolon
        obtain ⟨rfl, rfl, -⟩ := hcolon
        exact unsplit (List.prefix_append _ answer).isInfix
    rw [List.cons_append, splitHint_cons hbegins,
      ih (fun hlater => unsplit (hlater.trans hsuffix.isInfix))
        fun hlast => apart (hlast.trans hsuffix)]

end Split

/-! ## Numbers -/

/-- A number of 32 bits is read from its digits. -/
theorem ordinalOf?_toDigits (n : UInt32) : ordinalOf? (Nat.toDigits 10 n.toNat) = some n := by
  rw [ordinalOf?, Text.digitsValue_toDigits, if_pos n.toNat_lt, UInt32.ofNat_toNat]

/-! ## Written parts -/

/-- A hidden part as it is written in a text, without the braces around it. -/
def written (n : UInt32) (answer : String) (hint : Option String) : String :=
  "c" ++ toString n.toNat ++ "::" ++ answer ++
    match hint with
    | none => ""
    | some hint => "::" ++ hint

/-- What is behind the first colons of a written part. -/
def writtenBody (answer : String) (hint : Option String) : List Char :=
  answer.toList ++ (hint.elim [] fun hint => ':' :: ':' :: hint.toList)

/-- The parts that are read as they are written: the number is positive, the answer can be told from the
hint, and all stands on one line and is closed by the braces after it and no sooner. -/
structure Writable (n : UInt32) (answer : String) (hint : Option String) : Prop where
  positive : 1 ≤ n
  unsplit : ¬ [':', ':'] <:+: answer.toList
  apart : hint.isSome → ¬ [':'] <:+ answer.toList
  line : '\n' ∉ (written n answer hint).toList
  unclosed : ¬ ['}', '}'] <:+: (written n answer hint).toList
  ends : ¬ ['}'] <:+ (written n answer hint).toList

section Written

variable {n other : UInt32} {answer : String} {hint : Option String} {reveal : Bool}

theorem toList_written (n : UInt32) (answer : String) (hint : Option String) :
    (written n answer hint).toList =
      'c' :: Nat.toDigits 10 n.toNat ++ ':' :: ':' :: writtenBody answer hint := by
  cases hint <;> simp [written, writtenBody]

theorem splitHint_writtenBody (h : Writable n answer hint) :
    splitHint (writtenBody answer hint) = (answer.toList, hint.map String.toList) := by
  cases hint with
  | none =>
    rw [writtenBody, Option.elim_none, List.append_nil]
    exact splitHint_of_unsplit h.unsplit
  | some hint => exact splitHint_append h.unsplit (h.apart rfl)

/-- What has no double brace and does not end with a brace ends at the double brace behind it. -/
theorem endsAtFirst_of_not_infix {body : List Char} (unclosed : ¬ ['}', '}'] <:+: body)
    (ends : ¬ ['}'] <:+ body) : EndsAtFirst body := by
  induction body with
  | nil => exact Template.endsAtFirst_nil
  | cons c body ih =>
    have hsuffix : body <:+ c :: body := List.suffix_cons c body
    refine Template.endsAtFirst_cons.mpr ⟨?_, ih (fun hlater => unclosed (hlater.trans
      hsuffix.isInfix)) fun hlast => ends (hlast.trans hsuffix)⟩
    cases body with
    | nil =>
      intro hcloses
      obtain rfl : '}' = c := (List.cons_prefix_cons.mp hcloses).1
      exact ends List.suffix_rfl
    | cons d body =>
      intro hcloses
      simp only [closing, List.cons_append, List.cons_prefix_cons] at hcloses
      obtain ⟨rfl, rfl, -⟩ := hcloses
      exact unclosed (List.prefix_append _ body).isInfix

namespace Writable

variable (h : Writable n answer hint)

include h

/-- A written part is a marker for the scanner. -/
theorem isMarker : IsMarker (written n answer hint).toList := by
  have hwritten := toList_written n answer hint
  have hsuffix : writtenBody answer hint <:+ (written n answer hint).toList := by
    rw [hwritten]
    exact ⟨'c' :: Nat.toDigits 10 n.toNat ++ [':', ':'], by simp⟩
  refine ⟨_, _, hwritten, Nat.toDigits_ne_nil, fun d hd => ?_, fun hmem => ?_, ?_⟩
  · exact Text.isDigit_of_ascii (Nat.isDigit_of_mem_toDigits (by decide) (by decide) hd)
  · exact h.line (hsuffix.subset hmem)
  · exact endsAtFirst_of_not_infix (fun hcloses => h.unclosed (hcloses.trans hsuffix.isInfix))
      fun hlast => h.ends (hlast.trans hsuffix)

/-- **The parser finds the parts** of a written marker. -/
theorem parse?_written : Marker.parse? (written n answer hint).toList =
    some ⟨some n, answer.toList, hint.map String.toList⟩ := by
  refine Marker.parse?_eq_some_iff.mpr ⟨_, _, toList_written n answer hint, Nat.toDigits_ne_nil,
    fun d => Nat.isDigit_of_mem_toDigits (by decide) (by decide), ?_⟩
  rw [ordinalOf?_toDigits, splitHint_writtenBody h]

end Writable

end Written

/-! ## Texts of one marker -/

section Single

variable {text : String} {token : Token} {m : Marker} {n target : UInt32} {reveal : Bool}

theorem render_of_single (htokens : tokenize text = [token]) (hm : markerOf? token = some m) :
    render text target reveal = String.ofList (m.render target reveal) := by
  rw [render_eq, htokens, List.flatMap_singleton, shown_of_marker hm]

theorem ordinals_of_single (htokens : tokenize text = [token]) (hm : markerOf? token = some m)
    (hn : m.ordinal = some n) (positive : 0 < n) : ordinals text = [n] := by
  have hfilter : [n].filter (0 < ·) = [n] := by simp [positive]
  rw [ordinals, htokens, List.filterMap_cons_some hm, List.filterMap_nil,
    List.filterMap_cons_some hn, List.filterMap_nil, hfilter]
  rfl

/-- The back shows the answer between asterisks. -/
theorem Marker.render_revealed (hn : m.ordinal = some n) :
    m.render n true = ['*', '*'] ++ m.answer ++ ['*', '*'] := by
  rw [render, if_neg (not_not_intro hn), if_pos rfl]

/-- The front shows the hint, unless it is blank. -/
theorem Marker.render_hinted {hint : List Char} (hn : m.ordinal = some n)
    (hhint : m.hint = some hint) :
    m.render n false = if hint.all Text.isBlank then mask else ['['] ++ hint ++ [']'] := by
  rw [render, if_neg (not_not_intro hn), if_neg Bool.false_ne_true, hhint]

/-- Without a hint the front shows the mask. -/
theorem Marker.render_unhinted (hn : m.ordinal = some n) (hhint : m.hint = none) :
    m.render n false = mask := by
  rw [render, if_neg (not_not_intro hn), if_neg Bool.false_ne_true, hhint]

end Single

/-- Characters around a text. -/
theorem ofList_around (before after : List Char) (s : String) :
    String.ofList (before ++ s.toList ++ after) = String.ofList before ++ s ++ String.ofList after := by
  rw [String.ofList_append, String.ofList_append, String.ofList_toList]

/-- **A written part is read as it was meant.** A text that is one written part in its braces is one tag,
of which the parser finds number, answer and hint; its only number is that of the part; the card for this
number shows the answer marked on its back, and on its front the hint in brackets, or the mask where there
is no hint or a blank one; and the cards for other numbers show the answer. -/
theorem written_reads_back {n : UInt32} {answer : String} {hint : Option String}
    (h : Writable n answer hint) :
    let inner := written n answer hint
    let text := "\x7b\x7b" ++ inner ++ "\x7d\x7d"
    tokenize text = [.tag inner.toList] ∧
      Marker.parse? inner.toList = some ⟨some n, answer.toList, hint.map String.toList⟩ ∧
      ordinals text = [n] ∧
      render text n true = "**" ++ answer ++ "**" ∧
      (∀ shown ∈ hint, Text.trim shown ≠ "" → render text n false = "[" ++ shown ++ "]") ∧
      ((∀ shown ∈ hint, Text.trim shown = "") → render text n false = "[...]") ∧
      ∀ other ≠ n, ∀ reveal, render text other reveal = answer := by
  intro inner text
  have htokens : tokenize text = [.tag inner.toList] := by
    have htext : text.toList = (Token.tag inner.toList).raw := by simp [text, Token.raw]
    rw [tokenize, htext, Template.scan_raw (Or.inl h.isMarker)]
  have hparse : markerOf? (.tag inner.toList) =
      some ⟨some n, answer.toList, hint.map String.toList⟩ := h.parse?_written
  refine ⟨htokens, hparse, ordinals_of_single htokens hparse rfl h.positive, ?_, ?_, ?_, ?_⟩
  · rw [render_of_single htokens hparse, Marker.render_revealed rfl]
    exact ofList_around _ _ answer
  · rintro shown rfl hshown
    have hfilled : ¬ shown.toList.all Text.isBlank = true := mt Text.trim_eq_empty_iff.mpr hshown
    rw [render_of_single htokens hparse, Marker.render_hinted rfl rfl, if_neg hfilled]
    exact ofList_around _ _ shown
  · intro hblank
    rw [render_of_single htokens hparse]
    cases hint with
    | none => rw [Marker.render_unhinted rfl rfl]; rfl
    | some shown =>
      have hall : shown.toList.all Text.isBlank = true :=
        Text.trim_eq_empty_iff.mp (hblank shown rfl)
      rw [Marker.render_hinted rfl rfl, if_pos hall]
      rfl
  · intro other hother reveal
    rw [render_of_single htokens hparse, Marker.render_of_ne (by simpa using hother.symm),
      String.ofList_toList]

/-- An answer with single colons and a brace at its beginning, and a hint with more colons. -/
theorem written_reads_back_colons :
    let text := "\x7b\x7bc12:::\x7da:b::hint::more\x7d\x7d"
    Writable 12 ":\x7da:b" (some "hint::more") ∧
      Marker.parse? (written 12 ":\x7da:b" (some "hint::more")).toList =
        some ⟨some 12, ":\x7da:b".toList, some "hint::more".toList⟩ ∧
      ordinals text = [12] ∧ render text 12 false = "[hint::more]" ∧
      render text 1 false = ":\x7da:b" := by
  intro text
  have hwritable : Writable 12 ":\x7da:b" (some "hint::more") :=
    ⟨by decide, by decide, by decide, by decide, by decide +kernel, by decide⟩
  have htext : text = "\x7b\x7b" ++ written 12 ":\x7da:b" (some "hint::more") ++ "\x7d\x7d" := by
    decide
  obtain ⟨-, hparse, hordinals, -, hhinted, -, hother⟩ := written_reads_back hwritable
  rw [htext]
  exact ⟨hwritable, hparse, hordinals, hhinted _ rfl (by decide), hother 1 (by decide) false⟩

end Flashcard.Cloze
