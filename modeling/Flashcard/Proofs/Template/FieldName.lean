import Flashcard.Proofs.Rename
import Flashcard.Proofs.Template.Renaming

/-!
# Names that tags can use

A note type takes any name for a field that is not blank, reserved or in use. A tag reads its own
inside in its own way: it ends at a double brace, its ends are trimmed, and `type:` before a name asks
for typing. So a tag made of the name of a field shows the field only if the name reads as itself.

- `fieldTag`: the template that is one tag with a name in it.
- `Usable`: the names that read as themselves.
- `NoteTypeEdit.newField?`: the name that an edit gives to a field.

## Main statements

- `render_congr`: a template is filled in alike if the fields that its tags read have the same values.
- `Usable.of_fieldRead`: the one tag that can read a name is the one that holds it, if it is usable.
- `render_fieldTag_eq_iff`: of the names that edits accept, exactly the usable ones show their field.
-/

namespace Flashcard

/-- The name that an edit gives to a field. -/
def NoteTypeEdit.newField? : NoteTypeEdit → Option String
  | addField name _ => some name
  | renameField _ newName => some newName
  | _ => none

/-- A name that is accepted for a field can be the name of a field. -/
theorem isFieldName_of_newField? {nt edited : NoteType} {edit : NoteTypeEdit} {name : String}
    (wellFormed : nt.WellFormed) (hname : edit.newField? = some name)
    (hok : nt.edit edit = .ok edited) : IsFieldName name := by
  cases edit with
  | addField new position =>
    obtain rfl : new = name := Option.some.inj hname
    exact (NoteType.checkNewField_eq_ok.mp (NoteType.addField_eq_ok.mp hok).1).1
  | renameField old new =>
    obtain rfl : new = name := Option.some.inj hname
    obtain ⟨index, hindex, ⟨rfl, -⟩ | ⟨-, hcheck, -⟩⟩ := NoteType.renameField_eq_ok.mp hok
    · exact NoteType.isFieldName_of_fieldIndex wellFormed hindex
    · exact (NoteType.checkNewField_eq_ok.mp hcheck).1
  | _ => cases hname

namespace Template

/-- The template that is one tag with this name in it, or looks like one. -/
def fieldTag (name : String) : String := "\x7b\x7b" ++ name ++ "\x7d\x7d"

/-- Names that read as themselves in a tag. A closing brace is only allowed where all of the name is
of the form of a cloze marker, which may hold single ones. -/
structure Usable (name : List Char) : Prop where
  trimmed : Text.trimChars name = name
  untyped : ¬ typePrefix <+: name
  closed : '}' ∉ name ∨ IsMarker name

variable {name : List Char} {inner key : List Char}

theorem toList_fieldTag (name : String) : (fieldTag name).toList = (Token.tag name.toList).raw := by
  simp [fieldTag, Token.raw]

/-! ## The fields that a template reads -/

/-- **A template is filled in alike** if the fields that its tags read have the same values. -/
theorem render_congr {template : String} {fields fields' : FieldMap} {front : Option String}
    (h : ∀ inner, .tag inner ∈ tokenize template →
      fieldChars fields (fieldRead (keyOf inner)) = fieldChars fields' (fieldRead (keyOf inner))) :
    render template fields front = render template fields' front :=
  expand_congr fun inner hinner => lookup_congr (h inner hinner)

/-- The name that a tag reads is no longer than the key. -/
theorem length_fieldRead_le (key : List Char) : (fieldRead key).length ≤ key.length := by
  cases hbehind : behind? typePrefix key with
  | none => rw [fieldRead_of_untyped hbehind]
  | some field =>
    rw [fieldRead_of_typed hbehind]
    obtain ⟨rest, rfl, rfl⟩ := behind?_eq_some_iff.mp hbehind
    have hrest := Text.length_trimChars_le rest
    rw [List.length_append]
    omega

/-- If it is as long as the key, it is the key. -/
theorem untyped_of_length_fieldRead (h : key.length ≤ (fieldRead key).length) :
    behind? typePrefix key = none := by
  rw [Option.eq_none_iff_forall_ne_some]
  intro field hbehind
  rw [fieldRead_of_typed hbehind] at h
  obtain ⟨rest, rfl, rfl⟩ := behind?_eq_some_iff.mp hbehind
  have hrest := Text.length_trimChars_le rest
  rw [List.length_append, show typePrefix.length = 5 from rfl] at h
  omega

/-! ## A tag with a name in it -/

/-- A tag in a template made of one tag is that tag, or a shorter one. -/
theorem eq_of_mem_fieldTag {name : String} (h : .tag inner ∈ tokenize (fieldTag name))
    (hlength : name.toList.length ≤ inner.length) : inner = name.toList ∧ IsTag inner := by
  have hsplit := leftmostSplit_scan (fieldTag name).toList
  obtain ⟨before, after, htokens⟩ := List.append_of_mem h
  change scan 0 (fieldTag name).toList = _ at htokens
  have hstarts := (hsplit.tag_starts before inner after htokens inner).mpr rfl
  have hwhole := hsplit.whole
  rw [htokens, List.flatMap_append, List.flatMap_cons, toList_fieldTag] at hwhole
  -- there is no room for characters before or after it
  have hsum := congrArg List.length hwhole
  simp only [List.length_append, Token.raw, List.length_cons, List.length_nil] at hsum
  have hbefore : before.flatMap Token.raw = [] := List.length_eq_zero_iff.mp (by omega)
  have hafter : after.flatMap Token.raw = [] := List.length_eq_zero_iff.mp (by omega)
  rw [hbefore, hafter, List.nil_append, List.append_nil] at hwhole
  refine ⟨by simpa [Token.raw] using hwhole, (starts_iff.mp hstarts).2⟩

/-- **The one tag that can read a name is the one that holds it**, and then the name is usable. -/
theorem Usable.of_fieldRead {name : String} (h : .tag inner ∈ tokenize (fieldTag name))
    (hread : fieldRead (keyOf inner) = name.toList) : Usable name.toList := by
  have hkey : (keyOf inner).length ≤ inner.length := Text.length_trimChars_le inner
  have hfield : name.toList.length ≤ (keyOf inner).length := hread ▸ length_fieldRead_le _
  obtain ⟨heq, htag⟩ := eq_of_mem_fieldTag h (hfield.trans hkey)
  have huntyped : behind? typePrefix (keyOf inner) = none := by
    refine untyped_of_length_fieldRead ?_
    rwa [hread, ← heq]
  rw [fieldRead_of_untyped huntyped] at hread
  rw [hread] at huntyped
  rw [heq] at hread htag
  refine ⟨hread, ?_, htag.symm.imp_left And.right⟩
  rintro ⟨rest, hrest⟩
  rw [behind?_eq_some_iff.mpr ⟨rest, hrest.symm, rfl⟩] at huntyped
  cases huntyped

/-- A usable name makes one tag, which shows the field. -/
theorem Usable.render_fieldTag {name : String} (h : Usable name.toList) (hne : name.toList ≠ [])
    (fields : FieldMap) : render (fieldTag name) fields none = fields.value name := by
  have htag : IsTag name.toList := h.closed.symm.imp_right fun hclosed => ⟨hne, hclosed⟩
  have htokens : tokenize (fieldTag name) = [.tag name.toList] := by
    rw [tokenize, toList_fieldTag, scan_raw htag]
  have huntyped : behind? typePrefix name.toList = none := by
    rw [Option.eq_none_iff_forall_ne_some]
    intro field hbehind
    obtain ⟨rest, hrest, -⟩ := behind?_eq_some_iff.mp hbehind
    exact h.untyped ⟨rest, hrest.symm⟩
  rw [render_eq, htokens, List.flatMap_singleton]
  show String.ofList (lookup.plain fields (keyOf name.toList)) = _
  rw [show keyOf name.toList = name.toList from h.trimmed, plain_of_untyped huntyped,
    fieldChars_toList, String.ofList_toList]

/-! ## Names that are accepted -/

/-- The field map with this one value. -/
def only (name value : String) : FieldMap := SortedMap.empty.insert name value

theorem value_only (name value : String) : (only name value).value name = value := by
  rw [only, FieldMap.value, SortedMap.getD, SortedMap.get?_insert_self, Option.getD_some]

theorem value_only_of_ne {name other : String} (h : other ≠ name) (value : String) :
    (only name value).value other = "" := by
  rw [only, FieldMap.value, SortedMap.getD, SortedMap.get?_insert_of_ne _ _ h, SortedMap.get?_empty,
    Option.getD_none]

/-- **Of the names that edits accept, exactly the usable ones show their field**: the template made of
one tag with the name of a new or renamed field in it shows every value of this field if and only if
the name has no blank ends, does not begin with `type:`, and has no closing brace unless it has the
form of a cloze marker. -/
theorem render_fieldTag_eq_iff {nt edited : NoteType} {edit : NoteTypeEdit} {name : String}
    (wellFormed : nt.WellFormed) (hname : edit.newField? = some name)
    (hok : nt.edit edit = .ok edited) :
    (∀ value, render ("\x7b\x7b" ++ name ++ "\x7d\x7d")
      (SortedMap.empty.insert name value) none = value) ↔ Usable name.toList := by
  show (∀ value, render (fieldTag name) (only name value) none = value) ↔ _
  constructor
  · intro hshows
    by_contra hnot
    -- no tag reads the name, so that two values give the same
    have hsame : render (fieldTag name) (only name "") none =
        render (fieldTag name) (only name "v") none := by
      refine render_congr fun inner hinner => ?_
      have hother : String.ofList (fieldRead (keyOf inner)) ≠ name := by
        rintro rfl
        exact hnot (Usable.of_fieldRead hinner (String.toList_ofList).symm)
      rw [fieldChars, value_only_of_ne hother, fieldChars, value_only_of_ne hother]
    rw [hshows, hshows] at hsame
    exact absurd hsame (by decide)
  · intro husable value
    have hne : name.toList ≠ [] := by
      intro hnil
      have hblank := (isFieldName_of_newField? wellFormed hname hok).1
      rw [Text.allBlank, hnil] at hblank
      cases hblank
    rw [husable.render_fieldTag hne, value_only]

/-- A field can be renamed to a name that has the form of a cloze marker with a closing brace in it,
and the tag with this name shows the field. -/
theorem render_fieldTag_eq_iff_marker :
    ∃ edited, NoteType.basic.edit (.renameField "Front" "c1::a\x7db") = .ok edited ∧
      ∀ value, render ("\x7b\x7b" ++ "c1::a\x7db" ++ "\x7d\x7d")
        (SortedMap.empty.insert "c1::a\x7db" value) none = value := by
  have hmarker : IsMarker "c1::a\x7db".toList := by
    refine ⟨['1'], "a\x7db".toList, rfl, by decide, ?_, by decide, ?_⟩
    · exact List.forall_mem_singleton.mpr (by decide)
    · show EndsAtFirst ['a', '}', 'b']
      simp [endsAtFirst_cons, endsAtFirst_nil, closing]
  refine ⟨_, rfl, (render_fieldTag_eq_iff (NoteType.wellFormed_stock _ (by decide)) rfl
    (rfl : NoteType.basic.edit (.renameField "Front" "c1::a\x7db") = .ok _)).mpr ?_⟩
  exact ⟨by decide, by decide, Or.inr hmarker⟩

/-- Not all accepted names are usable: one with blanks around it is accepted, and the tag with this
name reads another one. -/
theorem not_forall_accepted_shown :
    ¬ ∀ (nt edited : NoteType) (edit : NoteTypeEdit) (name : String), nt.WellFormed →
      edit.newField? = some name → nt.edit edit = .ok edited →
        ∀ value, render ("\x7b\x7b" ++ name ++ "\x7d\x7d") (SortedMap.empty.insert name value) none =
          value := by
  intro hall
  have hshown := hall NoteType.basic _ (.addField " Hint " none) " Hint "
    (NoteType.wellFormed_stock _ (by decide)) rfl rfl "v"
  have hempty : render ("\x7b\x7b" ++ " Hint " ++ "\x7d\x7d")
    (SortedMap.empty.insert " Hint " "v") none = "" := by decide +kernel
  rw [hempty] at hshown
  exact absurd hshown (by decide)

end Template

end Flashcard
