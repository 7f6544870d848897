import Flashcard.Cloze.Render
import Flashcard.Proofs.SortedMap
import Flashcard.Proofs.Template.Tokens
import Mathlib.Data.List.Basic

/-!
# Cloze numbers and what they hide

A cloze text is read twice: once for its numbers, each of which gives a card, and once for what the
card of a number shows. The two readings agree: a number is listed exactly where its card hides
something.

- `Hides`: the tokens that the card of a number hides.
- `shown`: what a card shows of a token.

## Main statements

- `mem_ordinals_iff`: the numbers of a text, by its tokens.
- `flatMap_shown_eq_iff`: front and back are the same only where nothing is hidden.
- `mem_ordinals_iff_render_ne`: a number is listed exactly if front and back of its card differ.
-/

namespace Flashcard.Cloze

open Template (Token tokenize)

/-- Whether a token is a marker with this number. -/
def Hides (n : UInt32) (token : Token) : Prop :=
  ∃ m, markerOf? token = some m ∧ m.ordinal = some n

/-- What the card for `target` shows of a token, on its back if `reveal`. -/
def shown (target : UInt32) (reveal : Bool) : Token → List Char
  | .text chars => chars
  | .tag inner => renderTag target reveal inner

variable {n target : UInt32} {reveal : Bool} {token : Token} {m : Marker}

/-! ## The numbers of a text -/

/-- **The numbers of a text** are the positive ones that some marker of it has. -/
theorem mem_ordinals_iff {text : String} :
    n ∈ ordinals text ↔ 0 < n ∧ ∃ token ∈ tokenize text, Hides n token := by
  have hfound : n ∈ ((tokenize text).filterMap markerOf?).filterMap (·.ordinal) ↔
      ∃ token ∈ tokenize text, Hides n token := by
    simp only [List.mem_filterMap, Hides]
    constructor
    · rintro ⟨m, ⟨token, htoken, hm⟩, hn⟩
      exact ⟨token, htoken, m, hm, hn⟩
    · rintro ⟨token, htoken, m, hm, hn⟩
      exact ⟨m, ⟨token, htoken, hm⟩, hn⟩
  rw [ordinals, SortedMap.mem_keys_ofList, List.map_map, ← hfound]
  simp [and_comm]

/-! ## What a card shows -/

theorem render_eq (text : String) :
    render text target reveal = String.ofList ((tokenize text).flatMap (shown target reveal)) :=
  congrArg String.ofList (List.flatMap_congr fun token _ => by cases token <;> rfl)

theorem shown_of_marker (h : markerOf? token = some m) :
    shown target reveal token = m.render target reveal := by
  cases token with
  | text chars => cases h
  | tag inner =>
    show renderTag target reveal inner = _
    rw [renderTag, show Marker.parse? inner = some m from h]

theorem shown_of_not_marker (h : markerOf? token = none) : shown target reveal token = token.raw := by
  cases token with
  | text chars => rfl
  | tag inner =>
    show renderTag target reveal inner = _
    rw [renderTag, show Marker.parse? inner = none from h]

namespace Marker

theorem render_of_ne (h : m.ordinal ≠ some target) : m.render target reveal = m.answer := if_pos h

/-- The hidden form of a part begins with a bracket. -/
theorem render_front (h : m.ordinal = some target) :
    ∃ rest, m.render target false = '[' :: rest := by
  rw [render, if_neg (not_not_intro h), if_neg Bool.false_ne_true]
  split
  · exact ⟨_, rfl⟩
  · split
    · exact ⟨_, rfl⟩
    · exact ⟨_, rfl⟩

/-- The marked form of a part begins with an asterisk. -/
theorem render_back (h : m.ordinal = some target) :
    ∃ rest, m.render target true = '*' :: rest := by
  rw [render, if_neg (not_not_intro h), if_pos rfl]
  exact ⟨_, rfl⟩

end Marker

/-- Front and back show the same of a token that is not hidden. -/
theorem shown_of_not_hides (h : ¬ Hides target token) :
    shown target false token = shown target true token := by
  cases hm : markerOf? token with
  | none => rw [shown_of_not_marker hm, shown_of_not_marker hm]
  | some m =>
    have hne : m.ordinal ≠ some target := fun hordinal => h ⟨m, hm, hordinal⟩
    rw [shown_of_marker hm, shown_of_marker hm, Marker.render_of_ne hne, Marker.render_of_ne hne]

/-- **Front and back are the same only where nothing is hidden.** -/
theorem flatMap_shown_eq_iff {tokens : List Token} :
    tokens.flatMap (shown target false) = tokens.flatMap (shown target true) ↔
      ∀ token ∈ tokens, ¬ Hides target token := by
  induction tokens with
  | nil => simp
  | cons token tokens ih =>
    rw [List.flatMap_cons, List.flatMap_cons, List.forall_mem_cons]
    by_cases h : Hides target token
    · -- here they part: a bracket on the front, an asterisk on the back
      obtain ⟨m, hm, hordinal⟩ := h
      obtain ⟨front, hfront⟩ := Marker.render_front hordinal
      obtain ⟨back, hback⟩ := Marker.render_back hordinal
      rw [shown_of_marker hm, shown_of_marker hm, hfront, hback]
      refine iff_of_false (fun heq => ?_) (fun hall => hall.1 ⟨m, hm, hordinal⟩)
      rw [List.cons_append, List.cons_append, List.cons.injEq] at heq
      exact absurd heq.1 (by decide)
    · rw [shown_of_not_hides h, List.append_right_inj, ih, and_iff_right h]

/-- Without markers a text is shown as it stands. -/
theorem flatMap_shown_of_not_marker {tokens : List Token}
    (h : ∀ token ∈ tokens, markerOf? token = none) :
    tokens.flatMap (shown target reveal) = tokens.flatMap Token.raw :=
  List.flatMap_congr fun token htoken => shown_of_not_marker (h token htoken)

/-! ## Both readings of a text -/

/-- **A positive number is listed exactly if front and back of its card differ**, and a text in which
no tag is a marker is shown as it stands, on every front and back. -/
theorem mem_ordinals_iff_render_ne (text : String) :
    (∀ n, 0 < n → (n ∈ ordinals text ↔ render text n false ≠ render text n true)) ∧
      ((∀ token ∈ tokenize text, markerOf? token = none) →
        ∀ n reveal, render text n reveal = text) := by
  constructor
  · intro n hn
    rw [mem_ordinals_iff, and_iff_right hn, render_eq, render_eq, Ne, String.ofList_inj,
      flatMap_shown_eq_iff]
    push Not
    rfl
  · intro h n reveal
    have hwhole := (Template.leftmostSplit_scan text.toList).whole
    rw [render_eq, flatMap_shown_of_not_marker h, tokenize, hwhole, String.ofList_toList]

/-- Two markers of one number, one with a blank hint, a marker of another number, one of number zero,
one whose number is too large, and a tag that is no marker. -/
def mixed : String :=
  "\x7b\x7bc2::a::hint\x7d\x7d \x7b\x7bc2::::  \x7d\x7d \x7b\x7bc1::b\x7d\x7d" ++
    " \x7b\x7bc0::z\x7d\x7d \x7b\x7bc4294967298::y\x7d\x7d \x7b\x7bFront\x7d\x7d"

/-- A marker-like tag whose number has a digit of another script, a plain tag, and an opening that
nothing closes. -/
def unmarked : String := "\x7b\x7bc\u0663::a\x7d\x7d \x7b\x7bFront\x7d\x7d \x7b\x7bc1::a\x7d"

/-- The second text shows itself; of the first one the number 2 is listed and hides something, and the
number 3, which is not listed, hides nothing. -/
theorem mem_ordinals_iff_render_ne_mixed :
    (2 ∈ ordinals mixed ∧ render mixed 2 false ≠ render mixed 2 true) ∧
      (3 ∉ ordinals mixed ∧ render mixed 3 false = render mixed 3 true) ∧
      (∀ token ∈ tokenize unmarked, markerOf? token = none) ∧
      render unmarked 1 false = unmarked := by
  have hlisted := (mem_ordinals_iff_render_ne mixed).1
  have htwo : 2 ∈ ordinals mixed := by decide
  have hthree : 3 ∉ ordinals mixed := by decide
  have hunmarked : ∀ token ∈ tokenize unmarked, markerOf? token = none := by decide
  refine ⟨⟨htwo, (hlisted 2 (by decide)).mp htwo⟩, ⟨hthree, ?_⟩, hunmarked,
    (mem_ordinals_iff_render_ne unmarked).2 hunmarked 1 false⟩
  exact not_not.mp fun hne => hthree ((hlisted 3 (by decide)).mpr hne)

end Flashcard.Cloze
