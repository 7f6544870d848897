import Flashcard.NoteType.Stock
import Flashcard.Proofs.Cloze.Numbers
import Flashcard.Proofs.Drafts
import Flashcard.Proofs.Template.Renaming

/-!
# Answers do not show on the front

Two texts that differ only in answers hidden on a card have the same front there, so nothing about an
answer can be told from the front. The comparison is of two runs: of two texts, and of two notes whose
template shows the text.

- `SameHint`, `Alike`, `SameFront`: hints, tokens and texts between which a front makes no difference.
- `MasksSource`: formats that show the field with the markers only within `cloze:`.
- `DifferOnlyHidden`: notes that differ only in answers hidden on a card.
- `Fronts`: the front that compiling gives.

## Main statements

- `SameFront.render_eq`, `SameFront.mem_ordinals_iff`: such texts have the same front, and the same
  numbers.
- `DifferOnlyHidden.expand_eq`: a format that masks the field is filled in with such notes alike.
- `front_hides_answer`: fronts do not depend on what they hide.
-/

namespace Flashcard.Cloze

open Template (Token tokenize)

variable {n target : UInt32} {token token' : Token} {m m' : Marker} {x y : String}

/-! ## Texts -/

/-- Whether a hint shows nothing: there is none, or it is blank. -/
def noHint : Option (List Char) → Bool
  | none => true
  | some hint => hint.all Text.isBlank

/-- Hints that show the same: equal ones, and any two that show nothing. -/
def SameHint (hint hint' : Option (List Char)) : Prop :=
  hint = hint' ∨ noHint hint = true ∧ noHint hint' = true

/-- Tokens of which the front for `n` shows the same: equal ones, and any two markers of this number
whose hints show the same, whatever their answers. -/
def Alike (n : UInt32) (token token' : Token) : Prop :=
  token = token' ∨ ∃ m ∈ markerOf? token, ∃ m' ∈ markerOf? token',
    m.ordinal = some n ∧ m'.ordinal = some n ∧ SameHint m.hint m'.hint

/-- Texts whose tokens, one by one, are alike on the front for `n`. -/
def SameFront (n : UInt32) (x y : String) : Prop :=
  List.Forall₂ (Alike n) (tokenize x) (tokenize y)

instance (hint hint' : Option (List Char)) : Decidable (SameHint hint hint') :=
  inferInstanceAs (Decidable (_ ∨ _))

instance (n : UInt32) : DecidableRel (Alike n) := fun _ _ =>
  inferInstanceAs (Decidable (_ ∨ _))

instance (n : UInt32) (x y : String) : Decidable (SameFront n x y) :=
  inferInstanceAs (Decidable (List.Forall₂ ..))

/-- What the front shows of a hidden part is told by the hint. -/
theorem Marker.render_front_eq (h : m.ordinal = some n) :
    m.render n false = if noHint m.hint then mask else ['['] ++ m.hint.getD [] ++ [']'] := by
  rw [render, if_neg (not_not_intro h), if_neg Bool.false_ne_true]
  cases m.hint with
  | none => rfl
  | some hint => rfl

theorem SameHint.render_eq (h : SameHint m.hint m'.hint) (hm : m.ordinal = some n)
    (hm' : m'.ordinal = some n) : m.render n false = m'.render n false := by
  rw [Marker.render_front_eq hm, Marker.render_front_eq hm']
  rcases h with heq | ⟨hnone, hnone'⟩
  · rw [heq]
  · rw [if_pos hnone, if_pos hnone']

theorem Alike.shown_eq (h : Alike n token token') :
    shown n false token = shown n false token' := by
  rcases h with rfl | ⟨m, hm, m', hm', hn, hn', hhint⟩
  · rfl
  · rw [shown_of_marker hm, shown_of_marker hm', hhint.render_eq hn hn']

theorem Alike.hides_iff (h : Alike n token token') : Hides target token ↔ Hides target token' := by
  rcases h with rfl | ⟨m, hm, m', hm', hn, hn', -⟩
  · rfl
  · have hm : markerOf? token = some m := hm
    have hm' : markerOf? token' = some m' := hm'
    simp only [Hides, hm, hm', Option.some.injEq, exists_eq_left', hn, hn']

theorem flatMap_shown_of_alike {tokens tokens' : List Token}
    (h : List.Forall₂ (Alike n) tokens tokens') :
    tokens.flatMap (shown n false) = tokens'.flatMap (shown n false) := by
  induction h with
  | nil => rfl
  | cons htoken _ ih => rw [List.flatMap_cons, List.flatMap_cons, htoken.shown_eq, ih]

theorem exists_hides_iff_of_alike {tokens tokens' : List Token}
    (h : List.Forall₂ (Alike n) tokens tokens') :
    (∃ token ∈ tokens, Hides target token) ↔ ∃ token ∈ tokens', Hides target token := by
  induction h with
  | nil => rfl
  | cons htoken _ ih => rw [List.exists_mem_cons_iff, List.exists_mem_cons_iff, htoken.hides_iff, ih]

/-- **Texts that differ only in hidden answers have the same front.** -/
theorem SameFront.render_eq (h : SameFront n x y) : render x n false = render y n false := by
  rw [Cloze.render_eq, Cloze.render_eq, flatMap_shown_of_alike h]

/-- They have the same numbers too. -/
theorem SameFront.mem_ordinals_iff (h : SameFront n x y) :
    target ∈ ordinals x ↔ target ∈ ordinals y := by
  rw [Cloze.mem_ordinals_iff, Cloze.mem_ordinals_iff, exists_hides_iff_of_alike h]

/-! ## Notes -/

/-- Whether a format shows the field with the markers only within `cloze:`: it has no tag for the bare
field. A tag that asks for typing shows of a field only that it is filled in. -/
def MasksSource (format : String) : Prop :=
  ∀ token ∈ tokenize format, ¬ token.RefersTo .plain clozeSource.toList

instance (format : String) : Decidable (MasksSource format) :=
  inferInstanceAs (Decidable (∀ token ∈ tokenize format, _))

/-- Notes that differ only in answers hidden on the card for `n`. -/
structure DifferOnlyHidden (n : UInt32) (a b : FieldMap) : Prop where
  text : SameFront n (a.value clozeSource) (b.value clozeSource)
  rest : ∀ name, name ≠ clozeSource → a.value name = b.value name

/-- In what compiling gives, the template `t` has one draft for `n`, with this front. -/
def Fronts (types : NoteType.Lookup) (typeName : String) (t : CardTemplate) (n : UInt32)
    (fields : FieldMap) (front : String) : Prop :=
  ∃ before after, compile types typeName fields = .ok (before ++ t.drafts fields ++ after) ∧
    ((t.drafts fields).filter (·.ordinal == n)).map (·.front) = [front]

variable {a b fields : FieldMap} {key : List Char}

/-- A text with a number is not empty. -/
theorem fieldChars_source_ne_nil (h : n ∈ clozeOrdinals fields) :
    Template.fieldChars fields clozeSource.toList ≠ [] := by
  rw [Template.fieldChars_toList]
  intro hnil
  rw [clozeOrdinals, String.toList_eq_nil_iff.mp hnil] at h
  obtain ⟨-, token, htoken, -⟩ := mem_ordinals_iff.mp h
  exact absurd htoken List.not_mem_nil

namespace DifferOnlyHidden

theorem mem_clozeOrdinals (h : DifferOnlyHidden n a b) (hn : n ∈ clozeOrdinals a) :
    n ∈ clozeOrdinals b :=
  h.text.mem_ordinals_iff.mp hn

/-- Tags other than the one for the bare field stand for the same. -/
theorem field_eq (h : DifferOnlyHidden n a b) (hn : n ∈ clozeOrdinals a)
    (hkey : key ≠ clozeSource.toList) : Template.lookup a none key = Template.lookup b none key := by
  by_cases hread : Template.fieldRead key = clozeSource.toList
  · -- then the field is to be typed, and it is filled in in both notes
    cases hbehind : Template.behind? Template.typePrefix key with
    | none => exact absurd (Template.fieldRead_of_untyped hbehind ▸ hread) hkey
    | some field =>
      obtain rfl : field = clozeSource.toList := Template.fieldRead_of_typed hbehind ▸ hread
      show Template.lookup.plain a key = Template.lookup.plain b key
      rw [Template.plain_of_typed hbehind, Template.plain_of_typed hbehind,
        if_neg (fieldChars_source_ne_nil hn),
        if_neg (fieldChars_source_ne_nil (h.mem_clozeOrdinals hn))]
  · refine Template.lookup_congr ?_
    have hname : String.ofList (Template.fieldRead key) ≠ clozeSource := by
      intro heq
      rw [← heq, String.toList_ofList] at hread
      exact hread rfl
    rw [Template.fieldChars, h.rest _ hname, Template.fieldChars]

/-- In a cloze template the bare field may stand within `cloze:` too. -/
theorem lookup_eq (h : DifferOnlyHidden n a b) (hn : n ∈ clozeOrdinals a)
    (hkey : key ≠ clozeSource.toList) : lookup a none n false key = lookup b none n false key := by
  unfold lookup
  cases Template.behind? Template.clozePrefix key with
  | none => exact h.field_eq hn hkey
  | some field =>
    show (render (String.ofList (Template.lookup a none field)) n false).toList =
      (render (String.ofList (Template.lookup b none field)) n false).toList
    by_cases hfield : field = clozeSource.toList
    · have hbare : ∀ fields : FieldMap, String.ofList (Template.lookup fields none field) =
          fields.value clozeSource := by
        intro fields
        show String.ofList (Template.lookup.plain fields field) = _
        rw [hfield, Template.plain_of_untyped rfl, Template.fieldChars_toList, String.ofList_toList]
      rw [hbare, hbare, h.text.render_eq]
    · rw [h.field_eq hn hfield]

/-- **A format that masks the field is filled in alike.** -/
theorem expand_eq (h : DifferOnlyHidden n a b) (hn : n ∈ clozeOrdinals a) {format : String}
    (hformat : MasksSource format) : expand format a none n false = expand format b none n false :=
  Template.expand_congr fun _ hinner => h.lookup_eq hn (hformat _ hinner)

end DifferOnlyHidden

/-- A cloze template has one draft for each number. -/
theorem fronts_clozeDraft {types : NoteType.Lookup} {typeName : String} {nt : NoteType}
    {t : CardTemplate} (htype : types typeName = some nt) (ht : t ∈ nt.templates)
    (hcloze : t.isCloze = true) (hn : n ∈ clozeOrdinals fields) :
    Fronts types typeName t n fields (t.clozeDraft fields n).front := by
  obtain ⟨before, after, hsplit⟩ := List.append_of_mem ht
  refine ⟨before.flatMap (·.drafts fields), after.flatMap (·.drafts fields), ?_, ?_⟩
  · simp only [compile, htype, NoteType.drafts, hsplit, List.flatMap_append, List.flatMap_cons,
      List.append_assoc]
  · have hone : (clozeOrdinals fields).filter (· == n) = [n] := by
      have hcount : (clozeOrdinals fields).count n = 1 :=
        List.count_eq_one_of_mem (nodup_ordinals _) hn
      rw [List.filter_beq, hcount, List.replicate_one]
    have hfilter : ((t.drafts fields).filter (·.ordinal == n)) =
        ((clozeOrdinals fields).filter (· == n)).map (t.clozeDraft fields) := by
      rw [CardTemplate.drafts, if_pos hcloze, List.filter_map]
      rfl
    rw [hfilter, hone]
    rfl

/-- **The front of a cloze card does not depend on what it hides.** Texts that differ only in answers
hidden on the card for `n` have the same front for it. And for a cloze template whose question shows
the field with the markers only within `cloze:`, compiling gives the same front for two notes that
differ only in this way. -/
theorem front_hides_answer (n : UInt32) :
    (∀ x y, SameFront n x y → render x n false = render y n false) ∧
      ∀ (types : NoteType.Lookup) (typeName : String) (nt : NoteType) (t : CardTemplate)
        (a b : FieldMap), types typeName = some nt → t ∈ nt.templates → t.isCloze = true →
        MasksSource t.question → DifferOnlyHidden n a b → n ∈ clozeOrdinals a →
        ∃ front, Fronts types typeName t n a front ∧ Fronts types typeName t n b front := by
  refine ⟨fun x y => SameFront.render_eq, ?_⟩
  intro types typeName nt t a b htype ht hcloze hmasks hdiffer hn
  refine ⟨_, fronts_clozeDraft htype ht hcloze hn, ?_⟩
  have hfront : (t.clozeDraft a n).front = (t.clozeDraft b n).front := hdiffer.expand_eq hn hmasks
  rw [hfront]
  exact fronts_clozeDraft htype ht hcloze (hdiffer.mem_clozeOrdinals hn)

/-- A text with two parts of number 1, one with a blank hint, and a part of number 2. -/
def secret : String :=
  "\x7b\x7bc1::Paris::  \x7d\x7d in \x7b\x7bc2::France\x7d\x7d on the \x7b\x7bc1::Seine::river\x7d\x7d"

/-- The text with other answers of number 1, and without the blank hint. -/
def otherSecret : String :=
  "\x7b\x7bc1::Bordeaux\x7d\x7d in \x7b\x7bc2::France\x7d\x7d on the \x7b\x7bc1::Garonne::river\x7d\x7d"

/-- The field values of a note with this text. -/
def noteWith (text : String) : FieldMap := .ofList [("Text", text), ("Extra", "Geography")]

theorem value_noteWith (text : String) : (noteWith text).value clozeSource = text := by
  simp [noteWith, clozeSource, FieldMap.value, SortedMap.getD, SortedMap.ofList,
    SortedMap.get?_insert]

theorem differOnlyHidden_noteWith (h : SameFront n x y) :
    DifferOnlyHidden n (noteWith x) (noteWith y) where
  text := by rwa [value_noteWith, value_noteWith]
  rest := by
    intro name hname
    have hname : name ≠ "Text" := hname
    simp [noteWith, FieldMap.value, SortedMap.getD, SortedMap.ofList, SortedMap.get?_insert, hname]

/-- A note with each of the two texts has the same front for number 1. -/
theorem front_hides_answer_secret :
    SameFront 1 secret otherSecret ∧ render secret 1 false = render otherSecret 1 false ∧
      ∃ t ∈ NoteType.cloze.templates, ∃ front,
        Fronts (.first NoteType.stock) "Cloze" t 1 (noteWith secret) front ∧
          Fronts (.first NoteType.stock) "Cloze" t 1 (noteWith otherSecret) front := by
  have hsame : SameFront 1 secret otherSecret := by decide +kernel
  refine ⟨hsame, (front_hides_answer 1).1 _ _ hsame, _, List.mem_cons_self, ?_⟩
  have hone : 1 ∈ clozeOrdinals (noteWith secret) := by
    rw [clozeOrdinals, value_noteWith]
    decide
  exact (front_hides_answer 1).2 _ _ NoteType.cloze _ _ _ rfl List.mem_cons_self rfl (by decide)
    (differOnlyHidden_noteWith hsame) hone

end Flashcard.Cloze
