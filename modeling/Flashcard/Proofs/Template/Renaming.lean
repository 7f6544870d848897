import Flashcard.Collection.Notes
import Flashcard.Proofs.SortedMap
import Flashcard.Proofs.Template.Swap
import Flashcard.Proofs.Text
import Flashcard.Template.Field

/-!
# Renamed fields in templates

A template whose references to a field are renamed says the new name in exactly these places, and with
the value moved to the new name it is filled in as before. The text that renaming makes is tokenized
again, so this is about every template, unfinished openings and stray braces included.

- `Form`, `Token.RefersTo`: the ways in which a tag can refer to a field.
- `PlainName`: the names that read as themselves in every form.
- `Renamed`: the token that a token becomes.
- `moveKey`: a field map with a value under another name.

## Main statements

- `renameReferences_exact`: the tokens of a renamed template, and what it is filled in to.
-/

namespace Flashcard

namespace Template

/-! ## References -/

/-- The ways in which a tag can refer to a field. -/
inductive Form where
  | plain
  | typed
  | cloze

/-- What stands before the name of the field. -/
def Form.start : Form → List Char
  | plain => []
  | typed => typePrefix
  | cloze => clozePrefix

/-- Whether the tag with the given key refers to a field in the given way. Behind the start of a special
form the name may have blanks around it. -/
def Form.Reads (form : Form) (key name : List Char) : Prop :=
  match form with
  | plain => key = name
  | typed => behind? typePrefix key = some name
  | cloze => behind? clozePrefix key = some name

/-- Whether a token is a tag that refers to a field in the given way. -/
def Token.RefersTo (form : Form) (name : List Char) : Token → Prop
  | text _ => False
  | tag inner => form.Reads (keyOf inner) name

instance (form : Form) (key name : List Char) : Decidable (form.Reads key name) := by
  cases form <;> exact inferInstanceAs (Decidable (_ = _))

instance (form : Form) (name : List Char) (token : Token) :
    Decidable (token.RefersTo form name) :=
  match token with
  | .text _ => inferInstanceAs (Decidable False)
  | .tag inner => inferInstanceAs (Decidable (form.Reads (keyOf inner) name))

/-- Names of fields that read as themselves in a tag of each form. -/
structure PlainName (name : List Char) : Prop where
  ne_nil : name ≠ []
  trimmed : Text.trimChars name = name
  closed : '}' ∉ name
  untyped : ¬ typePrefix <+: name
  unclozed : ¬ clozePrefix <+: name
  notFront : name ≠ frontSide

/-- What a token becomes when the references to `old` become references to `new`: a tag that refers to
`old` refers to `new` in the same way, and all else stays. -/
inductive Renamed (old new : List Char) : Token → Token → Prop where
  | kept {token : Token} (h : ∀ form, ¬ token.RefersTo form old) : Renamed old new token token
  | renamed {token : Token} (form : Form) (h : token.RefersTo form old) :
      Renamed old new token (.tag (form.start ++ new))

variable {old new : List Char}

/-- What stands behind a start is the rest of the key, trimmed. -/
theorem behind?_eq_some_iff {start key name : List Char} :
    behind? start key = some name ↔ ∃ field, key = start ++ field ∧ Text.trimChars field = name := by
  rw [behind?, Option.map_eq_some_iff]
  simp only [List.isPrefixOf?_eq_some_iff_append_eq, eq_comm (b := key)]

/-- A plain name is not one behind the start of a special form. -/
theorem PlainName.behind?_eq_none (h : PlainName new) :
    behind? typePrefix new = none ∧ behind? clozePrefix new = none := by
  constructor <;> rw [Option.eq_none_iff_forall_ne_some] <;> intro name hname <;>
    obtain ⟨field, rfl, -⟩ := behind?_eq_some_iff.mp hname
  · exact h.untyped (List.prefix_append _ _)
  · exact h.unclozed (List.prefix_append _ _)

/-- A new tag refers to the new name in the way that it was made for. -/
theorem PlainName.keyOf_append (h : PlainName new) (form : Form) :
    keyOf (form.start ++ new) = form.start ++ new := by
  cases form with
  | plain => exact h.trimmed
  | typed => exact Text.trimChars_append (by decide) h.ne_nil h.trimmed
  | cloze => exact Text.trimChars_append (by decide) h.ne_nil h.trimmed

/-- A plain name behind a form's start is read in that form. -/
theorem PlainName.reads_append (h : PlainName new) (form : Form) :
    form.Reads (keyOf (form.start ++ new)) new := by
  rw [h.keyOf_append]
  cases form with
  | plain => rfl
  | typed | cloze => exact behind?_eq_some_iff.mpr ⟨new, rfl, h.trimmed⟩

/-- Such a key has no brace or line feed. -/
theorem PlainName.isPlain_append (h : PlainName new) (form : Form) : IsPlain (form.start ++ new) := by
  refine ⟨List.append_ne_nil_of_right_ne_nil _ h.ne_nil, ?_⟩
  rw [List.mem_append, not_or]
  refine ⟨?_, h.closed⟩
  cases form <;> decide

/-- A tag that refers to a plain name has no closing brace. -/
theorem PlainName.not_mem_of_refersTo (h : PlainName old) {form : Form} {inner : List Char}
    (hrefers : (Token.tag inner).RefersTo form old) : '}' ∉ inner := by
  intro hmem
  have hkey : '}' ∈ keyOf inner := Text.mem_of_mem_trimChars (by decide) hmem
  have hbehind : ∀ {start : List Char}, '}' ∉ start →
      behind? start (keyOf inner) = some old → False := by
    intro start hstart hreads
    obtain ⟨field, heq, rfl⟩ := behind?_eq_some_iff.mp hreads
    rw [heq, List.mem_append] at hkey
    exact h.closed (Text.mem_of_mem_trimChars (by decide) (hkey.resolve_left hstart))
  cases form with
  | plain => exact h.closed (hrefers ▸ hkey)
  | typed => exact hbehind (by decide) hrefers
  | cloze => exact hbehind (by decide) hrefers

/-! ## The renamed template -/

/-- Renaming makes of each token what it should. -/
theorem renamed_renameToken (old new : List Char) (token : Token) :
    Renamed old new token (renameToken old new token) := by
  cases token with
  | text chars => exact .kept fun form hrefers => hrefers
  | tag inner =>
    show Renamed old new (.tag inner) (.tag ((renamedKey? (keyOf inner) old new).getD inner))
    by_cases hplain : keyOf inner = old
    · rw [renamedKey?, if_pos hplain]
      exact .renamed .plain hplain
    rw [renamedKey?, if_neg hplain]
    by_cases htyped : behind? typePrefix (keyOf inner) = some old
    · rw [if_pos htyped]
      exact .renamed .typed htyped
    rw [if_neg htyped]
    by_cases hcloze : behind? clozePrefix (keyOf inner) = some old
    · rw [if_pos hcloze]
      exact .renamed .cloze hcloze
    rw [if_neg hcloze]
    refine .kept fun form hrefers => ?_
    cases form with
    | plain => exact hplain hrefers
    | typed => exact htyped hrefers
    | cloze => exact hcloze hrefers

/-- A renamed token can stand where the old one stood. -/
theorem swap_renameToken (hold : PlainName old) (hnew : PlainName new) {token : Token}
    (line : ∀ form, token.RefersTo form old → '\n' ∉ token.raw) :
    Swap token (renameToken old new token) := by
  have hrenamed := renamed_renameToken old new token
  generalize renameToken old new token = token' at hrenamed ⊢
  cases hrenamed with
  | kept _ => exact .same token
  | renamed form hrefers =>
    cases token with
    | text chars => exact hrefers.elim
    | tag inner =>
      have hinner : '\n' ∉ inner := fun hmem =>
        line form hrefers (by simp [Token.raw, hmem])
      exact .tag (hold.not_mem_of_refersTo hrefers) hinner (hnew.isPlain_append form)

/-- A template in which references are renamed has the tokens of the old one, renamed. -/
theorem tokenize_renameReferences {template old new : String} (hold : PlainName old.toList)
    (hnew : PlainName new.toList)
    (lines : ∀ token ∈ tokenize template, ∀ form, token.RefersTo form old.toList →
      '\n' ∉ token.raw) :
    tokenize (renameReferences template old new) =
      (tokenize template).map (renameToken old.toList new.toList) := by
  have hswap : List.Forall₂ Swap (tokenize template)
      ((tokenize template).map (renameToken old.toList new.toList)) :=
    List.forall₂_map_right_iff.mpr (List.forall₂_same.mpr fun token htoken =>
      swap_renameToken hold hnew (lines token htoken))
  have hsplit := ((leftmostSplit_scan template.toList).swap hswap).scan_eq
  rw [List.flatMap_map] at hsplit
  rw [tokenize, renameReferences, String.toList_ofList]
  exact hsplit

/-! ## Filling in -/

/-- A field map with the value of a field moved to another name. -/
def moveKey (fields : FieldMap) (old new : String) : FieldMap :=
  match fields.get? old with
  | none => fields
  | some value => (fields.erase old).insert new value

/-- It is what renaming a field does to the notes of a type. -/
theorem fieldChange?_renameField (old new : String) :
    Collection.fieldChange? (.renameField old new) = some (moveKey · old new) := rfl

/-- Filling in goes token by token. -/
def filled (fields : FieldMap) (front : Option String) : Token → List Char
  | .text chars => chars
  | .tag inner => lookup fields front (keyOf inner)

/-- A template is rendered token by token. -/
theorem render_eq (template : String) (fields : FieldMap) (front : Option String) :
    render template fields front =
      String.ofList ((tokenize template).flatMap (filled fields front)) := by
  refine congrArg String.ofList (List.flatMap_congr fun token _ => ?_)
  cases token <;> rfl

section Moved

variable {fields : FieldMap} {old new : String}

/-- The new name has the value of the old one, if it was free. -/
theorem value_moveKey_new (free : fields.get? new = none) :
    (moveKey fields old new).value new = fields.value old := by
  unfold moveKey FieldMap.value SortedMap.getD
  cases hold : fields.get? old with
  | none => rw [free]
  | some value => rw [SortedMap.get?_insert_self]

/-- All other names have the values they had. -/
theorem value_moveKey_of_ne {name : String} (hold : name ≠ old) (hnew : name ≠ new) :
    (moveKey fields old new).value name = fields.value name := by
  unfold moveKey FieldMap.value SortedMap.getD
  cases fields.get? old with
  | none => rfl
  | some value =>
    dsimp only
    rw [SortedMap.get?_insert_of_ne _ _ hnew, SortedMap.get?_erase, if_neg hold]

theorem fieldChars_moveKey_new (free : fields.get? new = none) :
    fieldChars (moveKey fields old new) new.toList = fieldChars fields old.toList := by
  rw [fieldChars, fieldChars, String.ofList_toList, String.ofList_toList, value_moveKey_new free]

theorem fieldChars_moveKey_of_ne {name : List Char} (hold : name ≠ old.toList)
    (hnew : name ≠ new.toList) :
    fieldChars (moveKey fields old new) name = fieldChars fields name := by
  have hne : ∀ {s : String}, name ≠ s.toList → String.ofList name ≠ s := by
    rintro s hs rfl
    exact hs (String.toList_ofList).symm
  rw [fieldChars, fieldChars, value_moveKey_of_ne (hne hold) (hne hnew)]

/-- Without keys that begin like cloze text there is no value behind such a tag. -/
theorem fieldChars_cloze (unclozed : ∀ key ∈ fields.keys, ¬ clozePrefix <+: key.toList)
    (name : List Char) : fieldChars fields (clozePrefix ++ name) = [] := by
  have hnone : fields.get? (String.ofList (clozePrefix ++ name)) = none := by
    rw [Option.eq_none_iff_forall_ne_some]
    intro value hvalue
    refine unclozed _ (SortedMap.mem_keys_iff.mpr ⟨value, hvalue⟩) ?_
    rw [String.toList_ofList]
    exact List.prefix_append _ _
  rw [fieldChars, FieldMap.value, SortedMap.getD, hnone]
  rfl

/-- A plain name does not make a key look like a cloze form. -/
theorem unclozed_moveKey (hnew : PlainName new.toList)
    (unclozed : ∀ key ∈ fields.keys, ¬ clozePrefix <+: key.toList) :
    ∀ key ∈ (moveKey fields old new).keys, ¬ clozePrefix <+: key.toList := by
  intro key hkey
  unfold moveKey at hkey
  split at hkey
  · exact unclozed key hkey
  · rcases SortedMap.mem_keys_insert.mp hkey with rfl | hkey
    · exact hnew.unclozed
    · exact unclozed key (SortedMap.mem_keys_erase.mp hkey).2

end Moved

/-! ### Tag by tag -/

section Lookup

variable {fields : FieldMap} {front : Option String} {key field : List Char}

/-- Keys other than the front side are looked up among the fields. -/
theorem lookup_of_ne (h : key ≠ frontSide) :
    lookup fields front key = lookup.plain fields key := by
  unfold lookup
  cases front with
  | none => rfl
  | some front => exact if_neg h

/-- A key that asks for typing shows a prompt, or a hint that the field is empty. -/
theorem plain_of_typed (h : behind? typePrefix key = some field) :
    lookup.plain fields key =
      if fieldChars fields field = [] then typeEmpty.toList else typePrompt.toList := by
  rw [lookup.plain, h]

/-- Any other key shows the field of its name. -/
theorem plain_of_untyped (h : behind? typePrefix key = none) :
    lookup.plain fields key = fieldChars fields key := by
  rw [lookup.plain, h]

theorem fieldChars_toList (fields : FieldMap) (name : String) :
    fieldChars fields name.toList = (fields.value name).toList := by
  rw [fieldChars, String.ofList_toList]

/-- The name of the field whose value a tag with the given key reads, whether or not it is to be
typed. -/
def fieldRead (key : List Char) : List Char := (behind? typePrefix key).getD key

/-- A key that asks for typing reads the field behind it. -/
theorem fieldRead_of_typed (h : behind? typePrefix key = some field) : fieldRead key = field := by
  rw [fieldRead, h, Option.getD_some]

/-- Any other key reads the field of its name. -/
theorem fieldRead_of_untyped (h : behind? typePrefix key = none) : fieldRead key = key := by
  rw [fieldRead, h, Option.getD_none]

/-- What a tag stands for depends on the one field that it reads, and on the front. -/
theorem lookup_congr {fields' : FieldMap}
    (h : fieldChars fields (fieldRead key) = fieldChars fields' (fieldRead key)) :
    lookup fields front key = lookup fields' front key := by
  have hplain : lookup.plain fields key = lookup.plain fields' key := by
    cases hbehind : behind? typePrefix key with
    | none =>
      rw [fieldRead_of_untyped hbehind] at h
      rw [plain_of_untyped hbehind, plain_of_untyped hbehind, h]
    | some field =>
      rw [fieldRead_of_typed hbehind] at h
      rw [plain_of_typed hbehind, plain_of_typed hbehind, h]
  unfold lookup
  rw [hplain]

/-- A tag stands for the front only if the name that it refers to does. -/
theorem Form.Reads.ne_frontSide {form : Form} (h : form.Reads key field) (hne : field ≠ frontSide) :
    key ≠ frontSide := by
  cases form with
  | plain =>
    obtain rfl : key = field := h
    exact hne
  | typed | cloze =>
    obtain ⟨rest, rfl, -⟩ := behind?_eq_some_iff.mp h
    intro heq
    cases heq

/-- A cloze key does not ask for typing. -/
theorem untyped_of_cloze (h : behind? clozePrefix key = some field) :
    behind? typePrefix key = none := by
  obtain ⟨rest, rfl, -⟩ := behind?_eq_some_iff.mp h
  rfl

variable {old new : String}

/-- A tag that refers to neither name stands for the same as before. -/
theorem lookup_moveKey_of_not_reads (hold : ∀ form : Form, ¬ form.Reads key old.toList)
    (hnew : ∀ form : Form, ¬ form.Reads key new.toList) :
    lookup (moveKey fields old new) front key = lookup fields front key := by
  have hplain : lookup.plain (moveKey fields old new) key = lookup.plain fields key := by
    cases hbehind : behind? typePrefix key with
    | none =>
      rw [plain_of_untyped hbehind, plain_of_untyped hbehind]
      exact fieldChars_moveKey_of_ne (hold .plain) (hnew .plain)
    | some field =>
      have hne : ∀ {s : String}, ¬ Form.typed.Reads key s.toList → field ≠ s.toList := by
        rintro s hs rfl
        exact hs hbehind
      rw [plain_of_typed hbehind, plain_of_typed hbehind,
        fieldChars_moveKey_of_ne (hne (hold .typed)) (hne (hnew .typed))]
  unfold lookup
  rw [hplain]

/-- A tag that refers to the new name, in whatever form, stands for what the tag did that referred to
the old one. -/
theorem lookup_moveKey_of_reads (hold : PlainName old.toList) (hnew : PlainName new.toList)
    (free : fields.get? new = none)
    (unclozed : ∀ key ∈ fields.keys, ¬ clozePrefix <+: key.toList) {form : Form}
    (h : form.Reads key old.toList) :
    lookup (moveKey fields old new) front (form.start ++ new.toList) = lookup fields front key := by
  have hreads := hnew.reads_append form
  rw [hnew.keyOf_append] at hreads
  rw [lookup_of_ne (h.ne_frontSide hold.notFront), lookup_of_ne (hreads.ne_frontSide hnew.notFront)]
  cases form with
  | plain =>
    obtain rfl : key = old.toList := h
    show lookup.plain (moveKey fields old new) new.toList = _
    rw [plain_of_untyped hold.behind?_eq_none.1, plain_of_untyped hnew.behind?_eq_none.1]
    exact fieldChars_moveKey_new free
  | typed =>
    rw [plain_of_typed h, plain_of_typed hreads, fieldChars_moveKey_new free]
  | cloze =>
    rw [plain_of_untyped (untyped_of_cloze h), plain_of_untyped (untyped_of_cloze hreads)]
    -- there are no values under such keys, before and after
    obtain ⟨rest, rfl, -⟩ := behind?_eq_some_iff.mp h
    rw [fieldChars_cloze unclozed]
    exact fieldChars_cloze (unclozed_moveKey hnew unclozed) new.toList

end Lookup

/-! ## Every template -/

/-- **Renaming a field in a template is exact.** For plain names, of which the new one is not in use and
the old one stands on single lines: in the tokens of the renamed template those tags that refer to the
old name refer to the new one in the same way, and all other tokens are as they were. And the renamed
template is filled in as before, for every front, once the value is moved to the new name. -/
theorem renameReferences_exact (template old new : String) (hold : PlainName old.toList)
    (hnew : PlainName new.toList)
    (unused : ∀ token ∈ tokenize template, ∀ form, ¬ token.RefersTo form new.toList)
    (lines : ∀ token ∈ tokenize template, ∀ form, token.RefersTo form old.toList →
      '\n' ∉ token.raw) :
    List.Forall₂ (Renamed old.toList new.toList) (tokenize template)
        (tokenize (renameReferences template old new)) ∧
      ∀ fields : FieldMap, fields.get? new = none →
        (∀ key ∈ fields.keys, ¬ clozePrefix <+: key.toList) → ∀ front,
          render (renameReferences template old new) (moveKey fields old new) front =
            render template fields front := by
  have htokens := tokenize_renameReferences hold hnew lines
  constructor
  · rw [htokens]
    exact List.forall₂_map_right_iff.mpr (List.forall₂_same.mpr fun token _ =>
      renamed_renameToken old.toList new.toList token)
  · intro fields free unclozed front
    rw [render_eq, render_eq, htokens, List.flatMap_map]
    refine congrArg String.ofList (List.flatMap_congr fun token htoken => ?_)
    have hrenamed := renamed_renameToken old.toList new.toList token
    generalize renameToken old.toList new.toList token = token' at hrenamed ⊢
    cases hrenamed with
    | kept hkept =>
      cases token with
      | text chars => rfl
      | tag inner => exact lookup_moveKey_of_not_reads hkept (unused _ htoken)
    | renamed form hrefers =>
      cases token with
      | text chars => exact hrefers.elim
      | tag inner =>
        rw [filled, hnew.keyOf_append]
        exact lookup_moveKey_of_reads hold hnew free unclozed hrefers

/-- A template with a reference of each form, a brace too many and an opening that nothing closes. -/
def everyForm : String :=
  "\x7b\x7b Front \x7d\x7d\x7d \x7b\x7btype: Front\x7d\x7d \x7b\x7bcloze:Front\x7d\x7d \x7b\x7bBack\x7d\x7d \x7b\x7bx"

/-- Each of the references is renamed, and the template is filled in as before. -/
theorem renameReferences_exact_everyForm :
    (∀ form, ∃ token ∈ tokenize everyForm, token.RefersTo form "Front".toList) ∧
      List.Forall₂ (Renamed "Front".toList "Face".toList) (tokenize everyForm)
        (tokenize (renameReferences everyForm "Front" "Face")) ∧
      render (renameReferences everyForm "Front" "Face")
          (moveKey (.ofList [("Front", "F"), ("Back", "B")]) "Front" "Face") none =
        render everyForm (.ofList [("Front", "F"), ("Back", "B")]) none := by
  have hexact := renameReferences_exact everyForm "Front" "Face"
    ⟨by decide, by decide, by decide, by decide, by decide, by decide⟩
    ⟨by decide, by decide, by decide, by decide, by decide, by decide⟩
    (fun token htoken form => by cases form <;> revert token <;> decide)
    (fun token htoken form => by cases form <;> revert token <;> decide)
  exact ⟨fun form => by cases form <;> decide, hexact.1,
    hexact.2 _ (by decide) (by decide) none⟩

end Template

end Flashcard
