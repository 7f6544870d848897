import Flashcard.Proofs.Json.Tokens

/-!
# Reading what was written

Both printers write a value in the same way but for blanks. Wherever blanks stand, the reader gets back
the value, as long as it has no numbers but integers that are held as such.

- `Layout`, `layout`: a value with blanks between its parts.
- `Plain`: values without other numbers, up to a depth.

## Main statements

- `compact_eq_layout`, `prettyAt_eq_layout`: the printers.
- `Plain.isReadBack`: a value is read back, whatever the layout.
- `read?_compact`, `read?_pretty`: whole texts.
-/

namespace Flashcard.Json

/-! ## Layouts -/

/-- Where blanks stand: at the start of a line, by its depth, and before the value of a member. -/
structure Layout where
  line : Nat → List Char
  value : List Char
  line_blank : ∀ depth, ∀ c ∈ line depth, isSpace c = true
  value_blank : ∀ c ∈ value, isSpace c = true

mutual

/-- A value at a depth. -/
def layout (l : Layout) (depth : Nat) : Json → List Char
  | .arr [] => ['[', ']']
  | .arr items => '[' :: (layoutItems l (depth + 1) items ++ (l.line depth ++ [']']))
  | .obj [] => ['\x7b', '\x7d']
  | .obj members => '\x7b' :: (layoutMembers l (depth + 1) members ++ (l.line depth ++ ['\x7d']))
  | j => (compact j).toList

/-- The items of an array. -/
def layoutItems (l : Layout) (depth : Nat) : List Json → List Char
  | [] => []
  | [j] => l.line depth ++ layout l depth j
  | j :: rest => l.line depth ++ (layout l depth j ++ ',' :: layoutItems l depth rest)

/-- The members of an object. -/
def layoutMembers (l : Layout) (depth : Nat) : List (String × Json) → List Char
  | [] => []
  | [(name, j)] =>
    l.line depth ++ ((quote name).toList ++ ':' :: (l.value ++ layout l depth j))
  | (name, j) :: rest =>
    l.line depth ++ ((quote name).toList ++ ':' :: (l.value ++ (layout l depth j ++
      ',' :: layoutMembers l depth rest)))

end

/-- No blanks at all. -/
def Layout.oneLine : Layout where
  line _ := []
  value := []
  line_blank _ _ h := nomatch h
  value_blank _ h := nomatch h

/-- A line for each item or member. -/
def Layout.indented : Layout where
  line depth := (newline depth).toList
  value := [' ']
  line_blank depth c hc := by
    rw [newline, String.toList_append, String.toList_ofList, String.toList_ofList] at hc
    rcases List.mem_append.mp hc with hc | hc
    · obtain rfl := List.mem_singleton.mp hc
      decide
    · rw [(List.mem_replicate.mp hc).2]
      decide
  value_blank c hc := by
    rw [List.mem_singleton.mp hc]
    decide

section Equations

variable (l : Layout) (depth : Nat)

theorem layout_arr (j : Json) (items : List Json) :
    layout l depth (.arr (j :: items)) =
      '[' :: (layoutItems l (depth + 1) (j :: items) ++ (l.line depth ++ [']'])) := by
  rw [layout]
  nofun

theorem layout_obj (m : String × Json) (members : List (String × Json)) :
    layout l depth (.obj (m :: members)) =
      '\x7b' :: (layoutMembers l (depth + 1) (m :: members) ++ (l.line depth ++ ['\x7d'])) := by
  rw [layout]
  nofun

theorem layoutItems_more (j j' : Json) (items : List Json) :
    layoutItems l depth (j :: j' :: items) =
      l.line depth ++ (layout l depth j ++ ',' :: layoutItems l depth (j' :: items)) := by
  rw [layoutItems]
  nofun

theorem layoutMembers_more (m m' : String × Json) (members : List (String × Json)) :
    layoutMembers l depth (m :: m' :: members) =
      l.line depth ++ ((quote m.1).toList ++ ':' :: (l.value ++ (layout l depth m.2 ++
        ',' :: layoutMembers l depth (m' :: members)))) := by
  rw [layoutMembers]
  nofun

/-- Items begin with the first one, on a line of its own. -/
theorem exists_layoutItems (j : Json) (items : List Json) :
    ∃ cs, layoutItems l depth (j :: items) = l.line depth ++ (layout l depth j ++ cs) := by
  cases items with
  | nil => exact ⟨[], by rw [layoutItems, List.append_nil]⟩
  | cons j' items => exact ⟨_, layoutItems_more l depth j j' items⟩

/-- Members begin with the first name, on a line of its own. -/
theorem exists_layoutMembers (m : String × Json) (members : List (String × Json)) :
    ∃ cs, layoutMembers l depth (m :: members) = l.line depth ++ ((quote m.1).toList ++ cs) := by
  cases members with
  | nil => exact ⟨_, by rw [layoutMembers]⟩
  | cons m' members => exact ⟨_, layoutMembers_more l depth m m' members⟩

end Equations

mutual

/-- The compact text is the layout on one line. -/
theorem compact_eq_layout (depth : Nat) : ∀ j, (compact j).toList = layout .oneLine depth j
  | .null | .garbled | .bool _ | .int _ | .float _ | .str _ => by rw [layout] <;> nofun
  | .arr [] => by rw [compact, compactItems, layout]; rfl
  | .obj [] => by rw [compact, compactMembers, layout]; rfl
  | .arr (j :: rest) => by
    rw [compact, layout_arr, ← compactItems_eq_layout (depth + 1) (j :: rest)]
    simp [Layout.oneLine]
  | .obj (m :: rest) => by
    rw [compact, layout_obj, ← compactMembers_eq_layout (depth + 1) (m :: rest)]
    simp [Layout.oneLine]

theorem compactItems_eq_layout (depth : Nat) :
    ∀ items, (compactItems items).toList = layoutItems .oneLine depth items
  | [] => rfl
  | [j] => by
    rw [compactItems, layoutItems, compact_eq_layout depth j]
    rfl
  | j :: j' :: rest => by
    rw [compactItems, layoutItems_more, ← compact_eq_layout depth j,
      ← compactItems_eq_layout depth (j' :: rest)]
    · simp [Layout.oneLine]
    · nofun

theorem compactMembers_eq_layout (depth : Nat) :
    ∀ members, (compactMembers members).toList = layoutMembers .oneLine depth members
  | [] => rfl
  | [(name, j)] => by
    rw [compactMembers, layoutMembers, ← compact_eq_layout depth j]
    simp [Layout.oneLine]
  | (name, j) :: m :: rest => by
    rw [compactMembers, layoutMembers_more, ← compact_eq_layout depth j,
      ← compactMembers_eq_layout depth (m :: rest)]
    · simp [Layout.oneLine]
    · nofun

end

mutual

/-- The indented text is the layout with indents. -/
theorem prettyAt_eq_layout (depth : Nat) : ∀ j, (prettyAt depth j).toList = layout .indented depth j
  | .null | .garbled | .bool _ | .int _ | .float _ | .str _ => by
    rw [prettyAt, layout] <;> nofun
  | .arr [] => by
    rw [prettyAt, layout]
    rfl
  | .obj [] => by
    rw [prettyAt, layout]
    rfl
  | .arr (j :: rest) => by
    rw [prettyAt, layout_arr, ← prettyItems_eq_layout (depth + 1) (j :: rest)]
    · simp [Layout.indented]
    · nofun
  | .obj (m :: rest) => by
    rw [prettyAt, layout_obj, ← prettyMembers_eq_layout (depth + 1) (m :: rest)]
    · simp [Layout.indented]
    · nofun

theorem prettyItems_eq_layout (depth : Nat) :
    ∀ items, (prettyItems depth items).toList = layoutItems .indented depth items
  | [] => rfl
  | [j] => by
    rw [prettyItems, layoutItems, ← prettyAt_eq_layout depth j]
    simp [Layout.indented]
  | j :: j' :: rest => by
    rw [prettyItems, layoutItems_more, ← prettyAt_eq_layout depth j,
      ← prettyItems_eq_layout depth (j' :: rest)]
    · simp [Layout.indented]
    · nofun

theorem prettyMembers_eq_layout (depth : Nat) :
    ∀ members, (prettyMembers depth members).toList = layoutMembers .indented depth members
  | [] => rfl
  | [(name, j)] => by
    rw [prettyMembers, layoutMembers, ← prettyAt_eq_layout depth j]
    simp [Layout.indented]
  | (name, j) :: m :: rest => by
    rw [prettyMembers, layoutMembers_more, ← prettyAt_eq_layout depth j,
      ← prettyMembers_eq_layout depth (m :: rest)]
    · simp [Layout.indented]
    · nofun

end

/-! ## Plain values -/

/-- A value of at most a depth, with no numbers but integers that are held as such. -/
inductive Plain : Nat → Json → Prop where
  | null (d : Nat) : Plain d .null
  | bool (d : Nat) (b : Bool) : Plain d (.bool b)
  | int (d : Nat) {n : Int} (least : minInt ≤ n) (greatest : n < intLimit) : Plain d (.int n)
  | str (d : Nat) (s : String) : Plain d (.str s)
  | arr {d : Nat} {items : List Json} (each : ∀ j ∈ items, Plain d j) : Plain (d + 1) (.arr items)
  | obj {d : Nat} {members : List (String × Json)} (each : ∀ m ∈ members, Plain d m.2) :
    Plain (d + 1) (.obj members)

/-- Items are readable if each of them is, and none is too deep. -/
theorem readable_items {d : Nat} {items : List Json}
    (h : ∀ j ∈ items, j.allReadable = true ∧ j.depth ≤ d) :
    allReadableItems items = true ∧ depthItems items ≤ d := by
  induction items with
  | nil => exact ⟨rfl, Nat.zero_le d⟩
  | cons j rest ih =>
    obtain ⟨hreadable, hdepth⟩ := h j List.mem_cons_self
    obtain ⟨hrest, hdepths⟩ := ih fun j' hj' => h j' (List.mem_cons_of_mem j hj')
    rw [allReadableItems, hreadable, hrest, depthItems]
    exact ⟨rfl, Nat.max_le.mpr ⟨hdepth, hdepths⟩⟩

/-- The limits of an object are those of an array of its values. -/
theorem members_eq_items (members : List (String × Json)) :
    allReadableMembers members = allReadableItems (members.map (·.2)) ∧
      depthMembers members = depthItems (members.map (·.2)) := by
  induction members with
  | nil => exact ⟨rfl, rfl⟩
  | cons m rest ih =>
    rw [allReadableMembers, depthMembers, ih.1, ih.2]
    exact ⟨rfl, rfl⟩

/-- A plain value can be read, as deep as it is. -/
theorem Plain.readable {d : Nat} {j : Json} (h : Plain d j) :
    j.allReadable = true ∧ j.depth ≤ d := by
  induction h with
  | null d | bool d b | int d _ _ | str d s => exact ⟨rfl, Nat.zero_le d⟩
  | arr _ ih =>
    obtain ⟨hreadable, hdepth⟩ := readable_items ih
    exact ⟨hreadable, Nat.succ_le_succ hdepth⟩
  | @obj d members _ ih =>
    obtain ⟨hreadable, hdepth⟩ := members_eq_items members
    rw [allReadable, depth, hreadable, hdepth]
    obtain ⟨hreadable, hdepth⟩ := readable_items (List.forall_mem_map.mpr ih)
    exact ⟨hreadable, Nat.succ_le_succ hdepth⟩

/-- A plain value keeps to the limits of a document, if it is not too deep. -/
theorem Plain.isDocument {d : Nat} {j : Json} (h : Plain d j) (hd : d ≤ maxDepth) :
    j.isDocument = true := by
  obtain ⟨hreadable, hdepth⟩ := h.readable
  rw [Json.isDocument, hreadable, Bool.true_and, decide_eq_true_eq]
  exact Nat.le_trans hdepth hd

/-! ## Reading -/

section Read

variable {l : Layout} {depth bound : Nat} {cs blanks rest : List Char}

/-- Blanks in front are skipped. -/
theorem skipSpace_append (blank : ∀ c ∈ blanks, isSpace c = true) :
    skipSpace (blanks ++ cs) = skipSpace cs := List.dropWhile_append_of_pos blank

/-- What is not blank stays. -/
theorem skipSpace_cons {c : Char} (hc : isSpace c = false) : skipSpace (c :: cs) = c :: cs :=
  List.dropWhile_cons_of_neg (by rw [hc]; exact Bool.false_ne_true)

/-- A blank more or less in front makes no difference. -/
theorem readValue_append (blank : ∀ c ∈ blanks, isSpace c = true) :
    readValue bound (blanks ++ cs) = readValue bound cs := by
  cases bound with
  | zero => rfl
  | succ bound => rw [readValue, readValue, skipSpace_append blank]

/-- A number does not begin with a blank. -/
theorem isSpace_of_begins {c : Char} (hc : c = '-' ∨ c.isDigit = true) : isSpace c = false := by
  cases hspace : isSpace c with
  | false => rfl
  | true =>
    simp only [isSpace, Bool.or_eq_true, beq_iff_eq] at hspace
    rcases hspace with ((rfl | rfl) | rfl) | rfl <;> rcases hc with hc | hc <;> cases hc

/-- A quoted text stands between quotation marks, escaped character by character. -/
theorem toList_quote (s : String) :
    (quote s).toList = '"' :: (s.toList.flatMap escape ++ ['"']) := by
  rw [quote]
  simp

/-- Where a value begins in a layout there is no blank, and no end of an array. -/
theorem Plain.begins {d : Nat} {j : Json} (h : Plain d j) (l : Layout) (depth : Nat) :
    ∃ c cs, layout l depth j = c :: cs ∧ isSpace c = false ∧ c ≠ ']' := by
  cases h with
  | null _ => exact ⟨'n', _, rfl, by decide, by decide⟩
  | bool _ b =>
    cases b with
    | true => exact ⟨'t', _, rfl, by decide, by decide⟩
    | false => exact ⟨'f', _, rfl, by decide, by decide⟩
  | @int _ n _ _ =>
    obtain ⟨c, cs, htext, hc⟩ := exists_toString n
    refine ⟨c, cs, htext, isSpace_of_begins hc, ?_⟩
    rintro rfl
    rcases hc with hc | hc <;> cases hc
  | str _ s => exact ⟨'"', _, toList_quote s, by decide, by decide⟩
  | @arr _ items _ =>
    cases items with
    | nil => exact ⟨'[', _, rfl, by decide, by decide⟩
    | cons j rest => exact ⟨'[', _, rfl, by decide, by decide⟩
  | @obj _ members _ =>
    cases members with
    | nil => exact ⟨'\x7b', _, rfl, by decide, by decide⟩
    | cons m rest => exact ⟨'\x7b', _, rfl, by decide, by decide⟩

/-- Where a number ends, it ends before blanks. -/
theorem endsNumber_append (blank : ∀ c ∈ blanks, isSpace c = true) (h : EndsNumber cs) :
    EndsNumber (blanks ++ cs) := by
  cases blanks with
  | nil => exact h
  | cons c blanks =>
    have hspace := blank c List.mem_cons_self
    simp only [isSpace, Bool.or_eq_true, beq_iff_eq] at hspace
    rintro _ ⟨⟩
    rcases hspace with ((rfl | rfl) | rfl) | rfl <;> decide

/-- A number ends before a comma and before a bracket that closes. -/
theorem endsNumber_cons {c : Char} (hc : c = ',' ∨ c = ']' ∨ c = '\x7d') : EndsNumber (c :: cs) := by
  rintro _ ⟨⟩
  rcases hc with rfl | rfl | rfl <;> decide

/-- An integer of the range that readers know is read back, if it ends there. -/
theorem readValue_int {n : Int} (least : minInt ≤ n) (greatest : n < intLimit)
    (ends : EndsNumber rest) :
    readValue (bound + 1) ((toString n).toList ++ rest) = some (.int n, rest) := by
  obtain ⟨c, cs, htext, hc⟩ := exists_toString n
  have hread := readNumber_toString least greatest ends
  rw [htext, List.cons_append] at hread ⊢
  rw [← hread, readValue, skipSpace_cons (isSpace_of_begins hc)]
  -- neither a digit nor a sign begins anything but a number
  split
  case h_7 => rfl
  all_goals
    rename_i heq
    obtain ⟨rfl, -⟩ := List.cons.inj heq
    rcases hc with hc | hc <;> cases hc

/-- A quoted text is read back. -/
theorem readString_quote (s : String) :
    readString (s.toList.flatMap escape ++ ['"'] ++ rest) = some (some s, rest) := by
  rw [List.append_assoc]
  exact readString_quoted s rest

/-- So is a value that is one. -/
theorem readValue_str (s : String) :
    readValue (bound + 1) ((quote s).toList ++ rest) = some (.str s, rest) := by
  rw [toList_quote, readValue, List.cons_append, skipSpace_cons (by decide)]
  show (readString _ >>= _) = _
  rw [readString_quote]
  rfl

/-! ### Parts -/

variable {j : Json} {name : String} {left : List Char}

/-- Items end where their bracket is closed. -/
theorem readItems_last (hread : readValue bound cs = some (j, left))
    (hend : skipSpace left = ']' :: rest) : readItems (bound + 1) cs = some ([j], rest) := by
  rw [readItems, hread]
  simp [hend]

/-- Items go on behind a comma. -/
theorem readItems_more {items : List Json} {after : List Char}
    (hread : readValue bound cs = some (j, left)) (hmore : skipSpace left = ',' :: rest)
    (hrest : readItems bound rest = some (items, after)) :
    readItems (bound + 1) cs = some (j :: items, after) := by
  rw [readItems, hread]
  simp [hmore, hrest]

/-- Whether a value is read back at a depth, whatever stands behind it. -/
def IsReadBack (l : Layout) (depth : Nat) (j : Json) : Prop :=
  ∀ {bound rest}, EndsNumber rest → 2 * (layout l depth j).length ≤ bound →
    readValue bound (layout l depth j ++ rest) = some (j, rest)

/-- The items of an array are read back if each of them is. -/
theorem readItems_layout {items : List Json} (hne : items ≠ [])
    (each : ∀ j ∈ items, IsReadBack l depth j)
    (blank : ∀ c ∈ blanks, isSpace c = true)
    (hbound : 2 * (layoutItems l depth items).length < bound) :
    readItems bound (layoutItems l depth items ++ (blanks ++ ']' :: rest)) = some (items, rest) := by
  induction items generalizing bound with
  | nil => exact absurd rfl hne
  | cons j items ih =>
    obtain ⟨bound, rfl⟩ : ∃ b, bound = b + 1 := ⟨bound - 1, by omega⟩
    have hfirst : ∀ {rest}, EndsNumber rest → 2 * (layout l depth j).length ≤ bound →
        readValue bound (l.line depth ++ (layout l depth j ++ rest)) = some (j, rest) := by
      intro rest ends hbound
      rw [readValue_append (l.line_blank depth)]
      exact each j List.mem_cons_self ends hbound
    cases items with
    | nil =>
      rw [layoutItems, List.length_append] at hbound
      rw [layoutItems, List.append_assoc]
      have ends : EndsNumber (blanks ++ ']' :: rest) :=
        endsNumber_append blank (endsNumber_cons (by decide))
      refine readItems_last (hfirst ends (by omega)) ?_
      rw [skipSpace_append blank, skipSpace_cons (by decide)]
    | cons j' items =>
      rw [layoutItems_more] at hbound ⊢
      simp only [List.length_append, List.length_cons] at hbound
      rw [List.append_assoc, List.append_assoc, List.cons_append]
      refine readItems_more (hfirst (endsNumber_cons (by decide)) (by omega))
        (skipSpace_cons (by decide)) ?_
      refine ih (List.cons_ne_nil j' items) (fun j'' hj'' => each j'' (List.mem_cons_of_mem j hj'')) ?_
      omega

/-- Members end where their bracket is closed. -/
theorem readMembers_last (hvalue : readValue bound cs = some (j, left))
    (hend : skipSpace left = '\x7d' :: rest) :
    readMembers (bound + 1) (l.line depth ++ ((quote name).toList ++ ':' :: cs)) =
      some ([(some name, j)], rest) := by
  have hcolon : skipSpace (':' :: cs) = ':' :: cs := skipSpace_cons (by decide)
  rw [readMembers, skipSpace_append (l.line_blank depth), toList_quote, List.cons_append,
    skipSpace_cons (by decide)]
  simp [readString_quoted, hcolon, hvalue, hend]

/-- Members go on behind a comma. -/
theorem readMembers_more {members : List (Option String × Json)} {after : List Char}
    (hvalue : readValue bound cs = some (j, left)) (hmore : skipSpace left = ',' :: rest)
    (hrest : readMembers bound rest = some (members, after)) :
    readMembers (bound + 1) (l.line depth ++ ((quote name).toList ++ ':' :: cs)) =
      some ((some name, j) :: members, after) := by
  have hcolon : skipSpace (':' :: cs) = ':' :: cs := skipSpace_cons (by decide)
  rw [readMembers, skipSpace_append (l.line_blank depth), toList_quote, List.cons_append,
    skipSpace_cons (by decide)]
  simp [readString_quoted, hcolon, hvalue, hmore, hrest]

/-- The members of an object are read back if each of their values is. -/
theorem readMembers_layout {members : List (String × Json)} (hne : members ≠ [])
    (each : ∀ m ∈ members, IsReadBack l depth m.2)
    (blank : ∀ c ∈ blanks, isSpace c = true)
    (hbound : 2 * (layoutMembers l depth members).length < bound) :
    readMembers bound (layoutMembers l depth members ++ (blanks ++ '\x7d' :: rest)) =
      some (members.map fun m => (some m.1, m.2), rest) := by
  induction members generalizing bound with
  | nil => exact absurd rfl hne
  | cons m members ih =>
    obtain ⟨name, j⟩ := m
    obtain ⟨bound, rfl⟩ : ∃ b, bound = b + 1 := ⟨bound - 1, by omega⟩
    have hfirst : ∀ {rest}, EndsNumber rest → 2 * (layout l depth j).length ≤ bound →
        readValue bound (l.value ++ (layout l depth j ++ rest)) = some (j, rest) := by
      intro rest ends hbound
      rw [readValue_append l.value_blank]
      exact each (name, j) List.mem_cons_self ends hbound
    cases members with
    | nil =>
      rw [layoutMembers] at hbound ⊢
      simp only [List.length_append, List.length_cons] at hbound
      simp only [List.append_assoc, List.cons_append]
      have ends : EndsNumber (blanks ++ '\x7d' :: rest) :=
        endsNumber_append blank (endsNumber_cons (by decide))
      refine readMembers_last (hfirst ends (by omega)) ?_
      rw [skipSpace_append blank, skipSpace_cons (by decide)]
    | cons m' members =>
      rw [layoutMembers_more] at hbound ⊢
      simp only [List.length_append, List.length_cons] at hbound
      simp only [List.append_assoc, List.cons_append]
      refine readMembers_more (hfirst (endsNumber_cons (by decide)) (by omega))
        (skipSpace_cons (by decide)) ?_
      refine ih (List.cons_ne_nil m' members)
        (fun m'' hm'' => each m'' (List.mem_cons_of_mem (name, j) hm'')) ?_
      omega

/-! ### Values -/

theorem readItems_append (blank : ∀ c ∈ blanks, isSpace c = true) :
    readItems bound (blanks ++ cs) = readItems bound cs := by
  cases bound with
  | zero => rfl
  | succ bound => rw [readItems, readItems, readValue_append blank]

theorem readMembers_append (blank : ∀ c ∈ blanks, isSpace c = true) :
    readMembers bound (blanks ++ cs) = readMembers bound cs := by
  cases bound with
  | zero => rfl
  | succ bound => rw [readMembers, readMembers, skipSpace_append blank]

/-- An array is read as its items are, if there are any. -/
theorem readValue_arr {c : Char} {items : List Json} (hspace : isSpace c = false) (hc : c ≠ ']')
    (blank : ∀ c ∈ blanks, isSpace c = true)
    (hitems : readItems bound (blanks ++ c :: cs) = some (items, rest)) :
    readValue (bound + 1) ('[' :: (blanks ++ c :: cs)) = some (.arr items, rest) := by
  rw [readItems_append blank] at hitems
  rw [readValue, skipSpace_cons (by decide)]
  simp only [skipSpace_append blank, skipSpace_cons hspace]
  split
  · rename_i heq
    exact absurd (List.cons.inj heq).1 hc
  · rw [hitems]
    rfl

/-- An object is read as its members are, if there are any. -/
theorem readValue_obj {members : List (String × Json)} (blank : ∀ c ∈ blanks, isSpace c = true)
    (hmembers : readMembers bound (blanks ++ '"' :: cs) =
      some (members.map fun m => (some m.1, m.2), rest)) :
    readValue (bound + 1) ('\x7b' :: (blanks ++ '"' :: cs)) = some (.obj members, rest) := by
  have hnamed : ofMembers (members.map fun m => (some m.1, m.2)) = .obj members := by
    rw [ofMembers, mapM_map_eq_some (g := fun m : String × Json => (some m.1, m.2)) fun _ => rfl]
  rw [readMembers_append blank] at hmembers
  rw [readValue, skipSpace_cons (by decide)]
  simp only [skipSpace_append blank, skipSpace_cons (show isSpace '"' = false by decide)]
  show (readMembers bound ('"' :: cs) >>= _) = _
  rw [hmembers, ← hnamed]
  rfl

/-- An array is read back if its items are. The reader counts down on the text, so its bound is in
the text's length. -/
theorem readValue_layout_arr {d : Nat} {items : List Json} (plain : ∀ j ∈ items, Plain d j)
    (each : ∀ j ∈ items, IsReadBack l (depth + 1) j)
    (hbound : 2 * (layout l depth (.arr items)).length ≤ bound + 1) :
    readValue (bound + 1) (layout l depth (.arr items) ++ rest) = some (.arr items, rest) := by
  cases items with
  | nil => rfl
  | cons j items =>
    rw [layout_arr] at hbound ⊢
    simp only [List.length_append, List.length_cons] at hbound
    have hitems : readItems bound (layoutItems l (depth + 1) (j :: items) ++
        (l.line depth ++ ']' :: rest)) = some (j :: items, rest) :=
      readItems_layout (List.cons_ne_nil j items) each (l.line_blank depth) (by omega)
    obtain ⟨_, hfirst⟩ := exists_layoutItems l (depth + 1) j items
    obtain ⟨c, cs, hbegins, hspace, hc⟩ := (plain j List.mem_cons_self).begins l (depth + 1)
    rw [hfirst, hbegins] at hitems ⊢
    simp only [List.append_assoc, List.cons_append, List.nil_append] at hitems ⊢
    exact readValue_arr hspace hc (l.line_blank _) hitems

/-- An object is read back if its values are. -/
theorem readValue_layout_obj {members : List (String × Json)}
    (each : ∀ m ∈ members, IsReadBack l (depth + 1) m.2)
    (hbound : 2 * (layout l depth (.obj members)).length ≤ bound + 1) :
    readValue (bound + 1) (layout l depth (.obj members) ++ rest) = some (.obj members, rest) := by
  cases members with
  | nil => rfl
  | cons m members =>
    rw [layout_obj] at hbound ⊢
    simp only [List.length_append, List.length_cons] at hbound
    have hmembers : readMembers bound (layoutMembers l (depth + 1) (m :: members) ++
        (l.line depth ++ '\x7d' :: rest)) =
          some ((m :: members).map fun m => (some m.1, m.2), rest) :=
      readMembers_layout (List.cons_ne_nil m members) each (l.line_blank depth) (by omega)
    obtain ⟨_, hfirst⟩ := exists_layoutMembers l (depth + 1) m members
    rw [hfirst, toList_quote] at hmembers ⊢
    simp only [List.append_assoc, List.cons_append, List.nil_append] at hmembers ⊢
    exact readValue_obj (l.line_blank _) hmembers

/-- A value takes a character, so there is a bound to begin with. -/
theorem isReadBack_of_succ {d : Nat} (h : Plain d j)
    (hread : ∀ {bound rest}, EndsNumber rest → 2 * (layout l depth j).length ≤ bound + 1 →
      readValue (bound + 1) (layout l depth j ++ rest) = some (j, rest)) :
    IsReadBack l depth j := by
  intro bound rest ends hbound
  cases bound with
  | zero =>
    obtain ⟨c, cs, hbegins, -⟩ := h.begins l depth
    rw [hbegins, List.length_cons] at hbound
    omega
  | succ bound => exact hread ends hbound

/-- **A plain value** is read back, wherever blanks stand in it. -/
theorem Plain.isReadBack {d : Nat} (h : Plain d j) : IsReadBack l depth j := by
  induction h generalizing depth with
  | null d => exact isReadBack_of_succ (.null d) fun _ _ => rfl
  | bool d b => exact isReadBack_of_succ (.bool d b) fun _ _ => by cases b <;> rfl
  | int d least greatest =>
    exact isReadBack_of_succ (.int d least greatest) fun ends _ => readValue_int least greatest ends
  | str d s => exact isReadBack_of_succ (.str d s) fun _ _ => readValue_str s
  | arr each ih =>
    exact isReadBack_of_succ (.arr each) fun _ hbound => readValue_layout_arr each (fun j hj => ih j hj) hbound
  | obj each ih =>
    exact isReadBack_of_succ (.obj each) fun _ hbound => readValue_layout_obj (fun m hm => ih m hm) hbound

end Read

/-! ## Whole texts -/

/-- What is written of a plain value is read back. -/
theorem read?_layout {l : Layout} {j : Json} {d : Nat} {text : String} (h : Plain d j)
    (htext : text.toList = layout l 0 j) : read? text = some j := by
  have hread : readValue (2 * (layout l 0 j).length + 1) (layout l 0 j) = some (j, []) := by
    have hbefore : IsReadBack l 0 j := h.isReadBack
    rw [← List.append_nil (layout l 0 j)]
    exact hbefore (fun _ hc => nomatch hc) (by rw [List.append_nil]; omega)
  rw [read?, htext]
  show (readValue _ _ >>= _) = _
  rw [hread]
  rfl

/-- **What is written on one line** is read back. -/
theorem read?_compact {j : Json} {d : Nat} (h : Plain d j) : read? (compact j) = some j :=
  read?_layout h (compact_eq_layout 0 j)

/-- **What is written on many lines** is read back. -/
theorem read?_pretty {j : Json} {d : Nat} (h : Plain d j) : read? (pretty j) = some j :=
  read?_layout h (prettyAt_eq_layout 0 j)

end Flashcard.Json
