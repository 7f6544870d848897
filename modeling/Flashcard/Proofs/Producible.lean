import Flashcard.Proofs.Cloze.Numbers
import Flashcard.Proofs.Drafts
import Flashcard.Proofs.Text
import Mathlib.Data.List.Sort

/-!
# The cards that a note can have

Which cards a note has follows from its type and its values alone. Here the rule is stated template by
template, without the compiler, and the drafts that compiling gives are the ones of the rule, in its order.

- `CardTemplate.GateOpen`: a gate that keeps no card away.
- `Producible`: the identities of the cards of some templates, in order.

## Main statements

- `Cloze.pairwise_ordinals`: the numbers of a text are listed in ascending order.
- `producible_iff`: the rule leaves one list of identities, that of the drafts.
- `compile_identities`: compiling succeeds, with drafts of exactly the producible identities.
-/

namespace Flashcard

open Template (tokenize)

/-- Whether the gate of a template keeps no card away: there is none, it is blank, or it names a field
that is filled in with more than blanks. -/
def CardTemplate.GateOpen (t : CardTemplate) (fields : FieldMap) : Prop :=
  t.gate = none ∨ ∃ gate, t.gate = some gate ∧
    (Text.trim gate = "" ∨ Text.trim (fields.value gate) ≠ "")

/-- The identities of the cards of some templates, in order. A plain template makes one card if its gate is
open, and none otherwise; a cloze template makes one for each positive number of a marker in the field
`Text`, in ascending order. -/
inductive Producible (fields : FieldMap) : List CardTemplate → List CardIdentity → Prop
  | none : Producible fields [] []
  | shut {t : CardTemplate} {templates : List CardTemplate} {ids : List CardIdentity}
      (plain : t.isCloze = false) (shut : ¬ t.GateOpen fields)
      (rest : Producible fields templates ids) : Producible fields (t :: templates) ids
  | plain {t : CardTemplate} {templates : List CardTemplate} {ids : List CardIdentity}
      (plain : t.isCloze = false) (opened : t.GateOpen fields)
      (rest : Producible fields templates ids) :
      Producible fields (t :: templates) (⟨t.name, 0⟩ :: ids)
  | cloze {t : CardTemplate} {templates : List CardTemplate} {ids : List CardIdentity}
      {numbers : List UInt32} (cloze : t.isCloze = true) (ascending : numbers.Pairwise (· < ·))
      (occurring : ∀ n, n ∈ numbers ↔
        1 ≤ n ∧ ∃ token ∈ tokenize (fields.value "Text"), Cloze.Hides n token)
      (rest : Producible fields templates ids) :
      Producible fields (t :: templates) (numbers.map (⟨t.name, ·⟩) ++ ids)

variable {fields : FieldMap}

/-! ## Templates -/

theorem CardTemplate.isOpen_iff {t : CardTemplate} : t.isOpen fields = true ↔ t.GateOpen fields := by
  unfold isOpen GateOpen gateField?
  cases t.gate with
  | none => simp
  | some gate =>
    by_cases hblank : Text.allBlank gate = true
    · simp [Text.nonBlank?, hblank, Text.trim_eq_empty_iff]
    · simp [Text.nonBlank?, hblank, Text.trim_eq_empty_iff]

/-- **The numbers of a text are listed in ascending order.** -/
theorem Cloze.pairwise_ordinals (text : String) : (ordinals text).Pairwise (· < ·) := by
  refine List.pairwise_map.mpr ((SortedMap.ofList _).ascending.imp fun {a b} hlt => ?_)
  exact Std.compare_eq_lt.mp hlt

/-- The rule gives the identities of the drafts. -/
theorem producible_drafts (templates : List CardTemplate) :
    Producible fields templates
      ((templates.flatMap (·.drafts fields)).map CardDraft.identity) := by
  induction templates with
  | nil => exact .none
  | cons t templates ih =>
    rw [List.flatMap_cons, List.map_append, CardTemplate.drafts]
    cases hcloze : t.isCloze with
    | true =>
      rw [if_pos rfl, List.map_map]
      exact .cloze hcloze (Cloze.pairwise_ordinals _) (fun n => Cloze.mem_ordinals_iff) ih
    | false =>
      rw [if_neg Bool.false_ne_true]
      split
      · next hopen => exact .plain hcloze (CardTemplate.isOpen_iff.mp hopen) ih
      · next hopen => exact .shut hcloze (mt CardTemplate.isOpen_iff.mpr hopen) ih

/-- The rule leaves no choice. -/
theorem Producible.unique {templates : List CardTemplate} {ids ids' : List CardIdentity}
    (h : Producible fields templates ids) (h' : Producible fields templates ids') : ids = ids' := by
  induction h generalizing ids' with
  | none =>
    cases h'
    rfl
  | shut plain shut _ ih =>
    cases h' with
    | shut _ _ rest => exact ih rest
    | plain _ opened _ => exact absurd opened shut
    | cloze cloze _ _ _ => rw [plain] at cloze; cases cloze
  | plain plain opened _ ih =>
    cases h' with
    | shut _ shut _ => exact absurd opened shut
    | plain _ _ rest => rw [ih rest]
    | cloze cloze _ _ _ => rw [plain] at cloze; cases cloze
  | cloze cloze ascending occurring _ ih =>
    cases h' with
    | shut plain _ _ | plain plain _ _ => rw [plain] at cloze; cases cloze
    | cloze _ ascending' occurring' rest =>
      -- an ascending list is known from its members
      have hnumbers := ascending.eq_of_mem_iff ascending' fun n =>
        (occurring n).trans (occurring' n).symm
      rw [hnumbers, ih rest]

/-- **The rule leaves one list of identities**, that of the drafts. -/
theorem producible_iff {templates : List CardTemplate} {ids : List CardIdentity} :
    (templates.flatMap (·.drafts fields)).map CardDraft.identity = ids ↔
      Producible fields templates ids := by
  constructor
  · rintro rfl
    exact producible_drafts templates
  · exact fun h => (producible_drafts templates).unique h

/-! ## Notes -/

/-- **Compiling gives exactly the producible identities**, in order: it succeeds for every note type that is
found and all field values, the identities of its drafts are the one list that the rule leaves, and where
the templates have different names no identity repeats. -/
theorem compile_identities {types : NoteType.Lookup} {typeName : String} {nt : NoteType}
    (typed : types typeName = some nt) (fields : FieldMap) :
    ∃ drafts, compile types typeName fields = .ok drafts ∧
      (∀ ids, drafts.map CardDraft.identity = ids ↔ Producible fields nt.templates ids) ∧
      ((nt.templates.map (·.name)).Nodup → (drafts.map CardDraft.identity).Nodup) := by
  refine ⟨nt.drafts fields, ?_, fun ids => producible_iff, fun distinct =>
    NoteType.nodup_identities_drafts distinct fields⟩
  rw [compile, typed]

/-- A note type with a plain template, one that is gated, and one for cloze cards. -/
def mixedType : NoteType where
  name := "Mixed"
  fields := ["Text", "Extra"]
  templates := [
    { name := "Cloze", question := "\x7b\x7bcloze:Text\x7d\x7d", answer := "", isCloze := true },
    { name := "Gated", question := "\x7b\x7bExtra\x7d\x7d", answer := "", gate := some "Extra" },
    { name := "Plain", question := "\x7b\x7bText\x7d\x7d", answer := "", gate := some " " }]

/-- With a blank field behind the gate and markers of the numbers 2, 0, 1 and again 2 there are two cloze
cards and the plain one. -/
theorem compile_identities_mixedType :
    let fields : FieldMap := .ofList [("Extra", " "),
      ("Text", "\x7b\x7bc2::a\x7d\x7d \x7b\x7bc0::z\x7d\x7d \x7b\x7bc1::b\x7d\x7d \x7b\x7bc2::c\x7d\x7d")]
    let ids : List CardIdentity := [⟨"Cloze", 1⟩, ⟨"Cloze", 2⟩, ⟨"Plain", 0⟩]
    ∃ drafts, compile (.only mixedType) "Mixed" fields = .ok drafts ∧
      drafts.map CardDraft.identity = ids ∧ Producible fields mixedType.templates ids ∧
      (drafts.map CardDraft.identity).Nodup := by
  intro fields ids
  have typed : NoteType.Lookup.only mixedType "Mixed" = some mixedType := rfl
  obtain ⟨drafts, hdrafts, hids, hnodup⟩ := compile_identities typed fields
  have hidentities : drafts.map CardDraft.identity = ids := by
    have hcompiled : drafts = mixedType.drafts fields := Except.ok.inj (hdrafts.symm.trans rfl)
    rw [hcompiled]
    decide +kernel
  exact ⟨drafts, hdrafts, hidentities, (hids ids).mp hidentities, hnodup (by decide)⟩

end Flashcard
