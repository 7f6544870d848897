import Flashcard.Cloze.Marker
import Flashcard.Proofs.Template.Swap
import Flashcard.Proofs.Text

/-!
# The form of cloze markers, read twice

What a cloze marker looks like is known in two places. The scanner finds the end of a tag, and lets only
markers hold a closing brace; the parser takes the inside of a tag apart. The scanner takes the digits of
every script for a number and wants a marker on one line, the parser takes the digits 0 to 9 only and
does not care for lines. On all other insides of tags they agree.

- `HasForeignDigit`: the number after `c` has a digit that is none of 0 to 9.

## Main statements

- `Marker.parse?_eq_some_iff`: the form that the parser takes apart, and its parts.
- `parses_iff_of_isMarker`: which markers of the scanner are markers for the parser.
- `marker_forms_agree`: the tags of a template, as the scanner and the parser see them.
-/

namespace Flashcard

namespace Cloze

open Template (Token tokenize closing IsMarker IsTag EndsAtFirst)

variable {template : String} {inner digits body : List Char} {m : Marker}

/-! ## The parser -/

/-- The digits that begin what is followed by a colon. -/
theorem takeWhile_ascii_append {rest : List Char} (h : ∀ d ∈ digits, d.isDigit) :
    (digits ++ ':' :: rest).takeWhile Char.isDigit = digits := by
  rw [List.takeWhile_append_of_pos h, List.takeWhile_cons_of_neg (by decide), List.append_nil]

/-- **What the parser takes for a marker**: `c`, some of the digits 0 to 9, two colons and a body, which
is split at its first two colons. -/
theorem Marker.parse?_eq_some_iff : Marker.parse? inner = some m ↔
    ∃ digits body, inner = 'c' :: digits ++ ':' :: ':' :: body ∧ digits ≠ [] ∧
      (∀ d ∈ digits, d.isDigit) ∧
      m = ⟨ordinalOf? digits, (splitHint body).1, (splitHint body).2⟩ := by
  constructor
  · intro h
    unfold parse? at h
    split at h
    · rename_i rest
      obtain ⟨tail, htail⟩ := List.takeWhile_prefix Char.isDigit (l := rest)
      have hdigits : ∀ d ∈ rest.takeWhile Char.isDigit, d.isDigit :=
        fun d hd => List.mem_takeWhile_imp hd
      generalize rest.takeWhile Char.isDigit = digits at h htail hdigits
      subst htail
      simp only [List.drop_left] at h
      split at h
      · exact ⟨_, _, by simp, by simp, hdigits, (Option.some.inj h).symm⟩
      · cases h
    · cases h
  · rintro ⟨digits, body, rfl, hne, hdigits, rfl⟩
    obtain ⟨d, ds, rfl⟩ := List.exists_cons_of_ne_nil hne
    have htake : (d :: (ds ++ ':' :: ':' :: body)).takeWhile Char.isDigit = d :: ds :=
      takeWhile_ascii_append hdigits
    simp [parse?, htake]

theorem Marker.parse?_isSome_iff : (Marker.parse? inner).isSome ↔
    ∃ digits body, inner = 'c' :: digits ++ ':' :: ':' :: body ∧ digits ≠ [] ∧
      ∀ d ∈ digits, d.isDigit := by
  rw [Option.isSome_iff_exists]
  constructor
  · rintro ⟨m, hm⟩
    obtain ⟨digits, body, hinner, hne, hdigits, -⟩ := parse?_eq_some_iff.mp hm
    exact ⟨digits, body, hinner, hne, hdigits⟩
  · rintro ⟨digits, body, hinner, hne, hdigits⟩
    exact ⟨_, parse?_eq_some_iff.mpr ⟨digits, body, hinner, hne, hdigits, rfl⟩⟩

/-! ## The scanner and the parser -/

/-- Whether the number after `c` has a digit that is none of 0 to 9. -/
def HasForeignDigit (inner : List Char) : Prop :=
  ∃ d ∈ (inner.drop 1).takeWhile Text.isDigit, ¬ d.isDigit

instance (inner : List Char) : Decidable (HasForeignDigit inner) :=
  List.decidableBEx (fun d : Char => ¬ d.isDigit) ((inner.drop 1).takeWhile Text.isDigit)

theorem hasForeignDigit_iff (h : ∀ d ∈ digits, Text.isDigit d) :
    HasForeignDigit ('c' :: digits ++ ':' :: ':' :: body) ↔ ∃ d ∈ digits, ¬ d.isDigit := by
  rw [HasForeignDigit, List.cons_append, List.drop_one, List.tail_cons,
    Template.takeWhile_isDigit_append h]

/-- What the parser takes apart has a number of the digits 0 to 9. -/
theorem not_hasForeignDigit_of_parses (h : (Marker.parse? inner).isSome) :
    ¬ HasForeignDigit inner := by
  obtain ⟨digits, body, rfl, -, hdigits⟩ := Marker.parse?_isSome_iff.mp h
  rw [hasForeignDigit_iff fun d hd => Text.isDigit_of_ascii (hdigits d hd)]
  rintro ⟨d, hd, hforeign⟩
  exact hforeign (hdigits d hd)

/-- A marker of the scanner is one for the parser unless its number has a foreign digit. -/
theorem parses_iff_of_isMarker (h : IsMarker inner) :
    (Marker.parse? inner).isSome ↔ ¬ HasForeignDigit inner := by
  refine ⟨not_hasForeignDigit_of_parses, fun hown => ?_⟩
  obtain ⟨digits, body, rfl, hne, hdigits, -, -⟩ := h
  rw [hasForeignDigit_iff hdigits] at hown
  push Not at hown
  exact Marker.parse?_isSome_iff.mpr ⟨digits, body, rfl, hne, hown⟩

/-- A marker of the scanner stands on one line. -/
theorem newline_not_mem_of_isMarker (h : IsMarker inner) : '\n' ∉ inner := by
  obtain ⟨digits, body, rfl, -, hdigits, hline, -⟩ := h
  have hnumber : '\n' ∉ digits := fun hmem => absurd (hdigits _ hmem) (by decide)
  simp [hnumber, hline]

/-- What the parser takes apart is a marker of the scanner, if it is a tag and on one line. -/
theorem isMarker_of_parses (htag : IsTag inner) (h : (Marker.parse? inner).isSome)
    (hline : '\n' ∉ inner) : IsMarker inner := by
  obtain hmarker | ⟨-, hclosed⟩ := htag
  · exact hmarker
  obtain ⟨digits, body, rfl, hne, hdigits⟩ := Marker.parse?_isSome_iff.mp h
  have hbody : ∀ {c}, c ∉ 'c' :: digits ++ ':' :: ':' :: body → c ∉ body :=
    fun hc hmem => hc (by simp [hmem])
  exact ⟨digits, body, rfl, hne, fun d hd => Text.isDigit_of_ascii (hdigits d hd), hbody hline,
    Template.endsAtFirst_of_not_mem (hbody hclosed)⟩

/-- A tag of a template has one of the two forms, and the template goes on with it at its place. -/
theorem isTag_of_split {before after : List Token}
    (h : tokenize template = before ++ .tag inner :: after) :
    IsTag inner ∧ (Token.tag inner).raw <+: template.toList.drop (before.flatMap Token.raw).length := by
  have hstarts := ((Template.leftmostSplit_scan template.toList).tag_starts before inner after h
    inner).mpr rfl
  exact (Template.starts_iff.mp hstarts).symm

/-- **The scanner and the parser agree on markers**, but for digits of other scripts and line feeds. Of
the tags of a template: one that holds a closing brace is a marker for the parser exactly if its number
has no foreign digit; the markers of the scanner without foreign digits are the markers of the parser on
one line; and every tag that is no marker of the scanner ends at the first closing brace behind its
opening. -/
theorem marker_forms_agree {template : String} {before after : List Token} {inner : List Char}
    (h : tokenize template = before ++ .tag inner :: after) :
    ('}' ∈ inner → ((Marker.parse? inner).isSome ↔ ¬ HasForeignDigit inner)) ∧
      (IsMarker inner ∧ ¬ HasForeignDigit inner ↔
        (Marker.parse? inner).isSome ∧ '\n' ∉ inner) ∧
      (¬ IsMarker inner → inner =
        (template.toList.drop ((before.flatMap Token.raw).length + 2)).takeWhile (· ≠ '}')) := by
  obtain ⟨htag, rest, hrest⟩ := isTag_of_split h
  refine ⟨fun hclosing => ?_, ?_, fun hnot => ?_⟩
  · obtain hmarker | ⟨-, hclosed⟩ := htag
    · exact parses_iff_of_isMarker hmarker
    · exact absurd hclosing hclosed
  · constructor
    · rintro ⟨hmarker, hown⟩
      exact ⟨(parses_iff_of_isMarker hmarker).mpr hown, newline_not_mem_of_isMarker hmarker⟩
    · rintro ⟨hparses, hline⟩
      exact ⟨isMarker_of_parses htag hparses hline, not_hasForeignDigit_of_parses hparses⟩
  · obtain ⟨-, hclosed⟩ := htag.resolve_left hnot
    rw [← List.drop_drop, ← hrest]
    exact (Template.takeWhile_closed hclosed).symm

/-- A marker with a closing brace, one whose number is of another script, and one on two lines. -/
def drifting : String :=
  "\x7b\x7bc1::a\x7db\x7d\x7d\x7b\x7bc\u0663::a\x7db\x7d\x7d\x7b\x7bc1::a\nb\x7d\x7d"

/-- The first tag is a marker for both, the second one for the scanner only, and the third one for the
parser only, so that it ends at the first closing brace. -/
theorem marker_forms_agree_drifting :
    ∃ first second third, tokenize drifting = [.tag first, .tag second, .tag third] ∧
      ('}' ∈ first ∧ (Marker.parse? first).isSome) ∧
      ('}' ∈ second ∧ HasForeignDigit second ∧ ¬ (Marker.parse? second).isSome) ∧
      ((Marker.parse? third).isSome ∧ ¬ IsMarker third ∧
        third = (drifting.toList.drop 24).takeWhile (· ≠ '}')) := by
  have htokens : tokenize drifting = [.tag "c1::a\x7db".toList, .tag "c\u0663::a\x7db".toList,
      .tag "c1::a\nb".toList] := by decide
  obtain ⟨hfirst, -⟩ := marker_forms_agree (show _ = [] ++ _ :: _ from htokens)
  obtain ⟨hsecond, -⟩ := marker_forms_agree (show _ = [_] ++ _ :: _ from htokens)
  obtain ⟨-, hthird, hends⟩ := marker_forms_agree (show _ = [_, _] ++ _ :: _ from htokens)
  have hlines : ¬ IsMarker "c1::a\nb".toList := fun h =>
    (hthird.mp ⟨h, by decide⟩).2 (by decide)
  exact ⟨_, _, _, htokens, ⟨by decide, (hfirst (by decide)).mpr (by decide)⟩,
    ⟨by decide, by decide, fun h => (hsecond (by decide)).mp h (by decide)⟩,
    by decide, hlines, hends hlines⟩

/-- Not every tag with a closing brace is a marker for the parser. -/
theorem not_forall_closing_brace_parses :
    ¬ ∀ template inner, .tag inner ∈ tokenize template → '}' ∈ inner →
      (Marker.parse? inner).isSome := by
  intro hall
  have hparses := hall "\x7b\x7bc\u0663::a\x7db\x7d\x7d" "c\u0663::a\x7db".toList (by decide) (by decide)
  exact absurd hparses (by decide)

end Cloze

end Flashcard
