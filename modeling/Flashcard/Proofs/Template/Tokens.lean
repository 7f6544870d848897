import Flashcard.Template.Token
import Mathlib.Data.List.Basic
import Mathlib.Data.List.TakeWhile

/-!
# The grammar of templates

The scanner of a template is a function. Here is the grammar it reads, said without it, and the proof
that the tokens it gives are the one split of the template by that grammar.

- `IsMarker`, `IsPlain`: the two forms of the inside of a tag.
- `Starts`: the tag that can start with the characters given. The second form counts only where the
  first is not available.
- `LeftmostSplit`: the split of a template in which every tag is taken where it can first start.

## Main statements

- `tag?_eq_some_iff`: the scanner's look at one place is `Starts`.
- `LeftmostSplit.tag_cons_iff`, `LeftmostSplit.text_cons_iff`: a split, by its first token.
- `tokenize_eq_iff`: the tokens of a template are its leftmost split, and it has no other.
-/

namespace Flashcard.Template

/-! ## The grammar of tags -/

/-- The double brace that ends a tag. -/
def closing : List Char := ['}', '}']

/-- With a double closing brace after it, `body` ends at the first one: none stands sooner. -/
def EndsAtFirst (body : List Char) : Prop :=
  ∀ before after, body ++ closing = before ++ closing ++ after → body.length ≤ before.length

/-- The inside of a cloze marker: `c`, decimal digits, two colons, and a body on one line that ends at
the first double closing brace. -/
def IsMarker (inner : List Char) : Prop :=
  ∃ digits body, inner = 'c' :: digits ++ ':' :: ':' :: body ∧
    digits ≠ [] ∧ (∀ d ∈ digits, Text.isDigit d) ∧ '\n' ∉ body ∧ EndsAtFirst body

/-- The inside of a plain tag: any characters but a closing brace. -/
def IsPlain (inner : List Char) : Prop := inner ≠ [] ∧ '}' ∉ inner

/-- A tag with this inside can start with the characters `cs`: they begin with it, and it is a cloze
marker or, where they begin with none, a plain tag. -/
def Starts (cs inner : List Char) : Prop :=
  (Token.tag inner).raw <+: cs ∧
    (IsMarker inner ∨ IsPlain inner ∧ ∀ other, (Token.tag other).raw <+: cs → ¬ IsMarker other)

/-- A tag with this inside can start at position `i` of the template. -/
def TagAt (cs : List Char) (i : Nat) (inner : List Char) : Prop := Starts (cs.drop i) inner

/-- A cloze marker is not empty. -/
theorem IsMarker.ne_nil {inner : List Char} (h : IsMarker inner) : inner ≠ [] := by
  obtain ⟨digits, body, rfl, -⟩ := h
  simp

/-- A tag is not empty. -/
theorem Starts.ne_nil {cs inner : List Char} (h : Starts cs inner) : inner ≠ [] := by
  obtain ⟨-, hmarker | ⟨hplain, -⟩⟩ := h
  · exact hmarker.ne_nil
  · exact hplain.1

/-! ## The scanner's look at one place -/

theorem endsAtFirst_nil : EndsAtFirst [] := fun _ _ _ => Nat.zero_le _

/-- A body ends at the first closing braces if none stand at its front and its rest ends there. -/
theorem endsAtFirst_cons {c : Char} {body : List Char} :
    EndsAtFirst (c :: body) ↔ ¬ closing <+: c :: (body ++ closing) ∧ EndsAtFirst body := by
  constructor
  · intro h
    refine ⟨?_, fun before after heq => ?_⟩
    · rintro ⟨after, heq⟩
      have := h [] after (by simpa using heq.symm)
      simp at this
    · have := h (c :: before) after (by simpa using heq)
      simpa using this
  · rintro ⟨hhere, hlater⟩ before after heq
    cases before with
    | nil => exact absurd ⟨after, by simpa using heq.symm⟩ hhere
    | cons b before =>
      have hle := hlater before after (by simp_all)
      simpa using hle

/-- The text before the first closing braces, if no line feed comes earlier. -/
theorem beforeClose?_eq_some_iff {cs body : List Char} :
    beforeClose? cs = some body ↔ body ++ closing <+: cs ∧ '\n' ∉ body ∧ EndsAtFirst body := by
  induction cs using beforeClose?.induct generalizing body with
  | case1 rest =>
    cases body with
    | nil => simp [beforeClose?, closing, endsAtFirst_nil]
    | cons c body =>
      simp only [beforeClose?, Option.some.injEq, reduceCtorEq, false_iff, endsAtFirst_cons]
      -- what begins with the double brace has it before any longer body ends
      rintro ⟨hbegins, -, hhere, -⟩
      have hclosing : closing <+: '}' :: '}' :: rest := by simp [closing]
      exact hhere (List.prefix_of_prefix_length_le hclosing hbegins (by simp [closing]))
  | case2 rest =>
    cases body with
    | nil => simp [beforeClose?, closing]
    | cons c body =>
      simp only [beforeClose?, reduceCtorEq, List.cons_append, List.cons_prefix_cons, false_iff]
      rintro ⟨⟨rfl, -⟩, hline, -⟩
      simp at hline
  | case3 c rest hopen hline ih =>
    have hnone : ¬ closing <+: c :: rest := by
      rintro ⟨tail, htail⟩
      simp only [closing, List.cons_append, List.nil_append, List.cons.injEq] at htail
      exact hopen tail htail.1.symm htail.2.symm
    cases body with
    | nil => simpa [beforeClose?] using fun h => absurd h hnone
    | cons c' body =>
      simp only [beforeClose?, Option.map_eq_some_iff, ih, List.cons.injEq, List.cons_append,
        List.cons_prefix_cons, List.mem_cons, not_or, endsAtFirst_cons]
      constructor
      · rintro ⟨body, ⟨hbegins, hbody, hends⟩, rfl, rfl⟩
        refine ⟨⟨rfl, hbegins⟩, ⟨fun h => hline h.symm, hbody⟩, fun h => hnone ?_, hends⟩
        exact h.trans (by simpa using hbegins)
      · rintro ⟨⟨rfl, hbegins⟩, ⟨-, hbody⟩, -, hends⟩
        exact ⟨body, ⟨hbegins, hbody, hends⟩, rfl, rfl⟩
  | case4 => simp [beforeClose?, closing]

theorem not_isDigit_colon : ¬ Text.isDigit ':' := by decide

/-- Digits before a colon are all the digits there are. -/
theorem takeWhile_isDigit_append {digits rest : List Char} (hdigits : ∀ d ∈ digits, Text.isDigit d) :
    (digits ++ ':' :: rest).takeWhile Text.isDigit = digits := by
  rw [List.takeWhile_append_of_pos hdigits, List.takeWhile_cons_of_neg not_isDigit_colon,
    List.append_nil]

/-- The head of a marker is a `c`, digits and two colons. -/
theorem markerHead?_eq_some_iff {cs head : List Char} :
    markerHead? cs = some head ↔
      ∃ digits, head = 'c' :: digits ++ [':', ':'] ∧ digits ≠ [] ∧
        (∀ d ∈ digits, Text.isDigit d) ∧ head <+: cs := by
  constructor
  · intro h
    unfold markerHead? at h
    split at h
    · rename_i rest
      obtain ⟨tail, htail⟩ := List.takeWhile_prefix Text.isDigit (l := rest)
      have hdigits : ∀ d ∈ rest.takeWhile Text.isDigit, Text.isDigit d :=
        fun d hd => List.mem_takeWhile_imp hd
      generalize rest.takeWhile Text.isDigit = digits at h htail hdigits
      subst htail
      simp only [List.drop_left] at h
      split at h
      · obtain rfl := Option.some.inj h
        exact ⟨_, rfl, by simp, hdigits, by simp⟩
      · cases h
    · cases h
  · rintro ⟨digits, rfl, hne, hdigits, tail, rfl⟩
    obtain ⟨d, ds, rfl⟩ := List.exists_cons_of_ne_nil hne
    have htake : (d :: (ds ++ ':' :: ':' :: tail)).takeWhile Text.isDigit = d :: ds :=
      takeWhile_isDigit_append hdigits
    simp [markerHead?, htake]

/-- A marker is found exactly where one is closed. -/
theorem marker?_eq_some_iff {cs inner : List Char} :
    marker? cs = some inner ↔ inner ++ closing <+: cs ∧ IsMarker inner := by
  unfold marker?
  constructor
  · intro h
    split at h
    · cases h
    · rename_i head hhead
      obtain ⟨digits, rfl, hne, hdigits, rest, rfl⟩ := markerHead?_eq_some_iff.mp hhead
      rw [List.drop_left, Option.map_eq_some_iff] at h
      obtain ⟨body, hbody, rfl⟩ := h
      obtain ⟨hbegins, hline, hends⟩ := beforeClose?_eq_some_iff.mp hbody
      exact ⟨by simpa using hbegins, digits, body, by simp, hne, hdigits, hline, hends⟩
  · rintro ⟨⟨rest, rfl⟩, digits, body, rfl, hne, hdigits, hline, hends⟩
    have hhead : markerHead? ('c' :: digits ++ ':' :: ':' :: body ++ closing ++ rest) =
        some ('c' :: digits ++ [':', ':']) :=
      markerHead?_eq_some_iff.mpr ⟨digits, rfl, hne, hdigits, body ++ closing ++ rest, by simp⟩
    have hbody : beforeClose? (body ++ closing ++ rest) = some body :=
      beforeClose?_eq_some_iff.mpr ⟨List.prefix_append _ _, hline, hends⟩
    have hsplit : 'c' :: digits ++ ':' :: ':' :: body ++ closing ++ rest =
        ('c' :: digits ++ [':', ':']) ++ (body ++ closing ++ rest) := by simp
    rw [hhead, hsplit]
    simp only [List.drop_left, hbody, Option.map_some]
    simp

/-- What has no closing brace ends before the first one. -/
theorem takeWhile_closed {inner rest : List Char} (h : '}' ∉ inner) :
    (inner ++ closing ++ rest).takeWhile (· ≠ '}') = inner := by
  rw [List.append_assoc, List.takeWhile_append_of_pos]
  · simp [closing]
  · intro c hc
    simpa using ne_of_mem_of_not_mem hc h

/-- A plain key is found exactly where one is closed. -/
theorem plain?_eq_some_iff {cs inner : List Char} :
    plain? cs = some inner ↔ inner ++ closing <+: cs ∧ IsPlain inner := by
  constructor
  · intro h
    unfold plain? at h
    obtain ⟨tail, htail⟩ := List.takeWhile_prefix (fun c : Char => c ≠ '}') (l := cs)
    have hinner : ∀ c ∈ cs.takeWhile (fun c : Char => c ≠ '}'), c ≠ '}' :=
      fun c hc => by simpa using List.mem_takeWhile_imp hc
    generalize cs.takeWhile (fun c : Char => c ≠ '}') = taken at h htail hinner
    subst htail
    simp only [List.drop_left] at h
    split at h
    · obtain rfl := Option.some.inj h
      exact ⟨by simp [closing], by simp, fun hmem => hinner _ hmem rfl⟩
    · cases h
  · rintro ⟨⟨rest, rfl⟩, hne, hinner⟩
    have htake : (inner ++ closing ++ rest).takeWhile (· ≠ '}') = inner := takeWhile_closed hinner
    obtain ⟨c, cs, rfl⟩ := List.exists_cons_of_ne_nil hne
    rw [plain?, htake]
    simp [closing]

theorem raw_tag (inner : List Char) : (Token.tag inner).raw = '{' :: '{' :: (inner ++ closing) := rfl

/-- A tag is found exactly where one starts. -/
theorem tag?_eq_some_iff {cs inner : List Char} : tag? cs = some inner ↔ Starts cs inner := by
  unfold tag? Starts
  split
  · rename_i rest
    simp only [raw_tag, List.cons_prefix_cons, true_and, Option.or_eq_some_iff, marker?_eq_some_iff,
      plain?_eq_some_iff, Option.eq_none_iff_forall_ne_some, ne_eq, not_and]
    grind
  · rename_i hopen
    simp only [raw_tag, reduceCtorEq, false_iff, not_and]
    rintro ⟨rest, rfl⟩
    exact absurd rfl (hopen _)

/-- No tag is found exactly where none starts. -/
theorem tag?_eq_none_iff {cs : List Char} : tag? cs = none ↔ ∀ inner, ¬ Starts cs inner := by
  simp [Option.eq_none_iff_forall_ne_some, tag?_eq_some_iff]

/-- Two tags cannot start at one place. -/
theorem Starts.unique {cs inner other : List Char} (h : Starts cs inner) :
    Starts cs other ↔ other = inner := by
  rw [← tag?_eq_some_iff, tag?_eq_some_iff.mpr h, Option.some.injEq, eq_comm]

/-! ## The leftmost split -/

/-- The split of `cs` into tokens in which every tag stands where it can first start. The position of
a token is the length of what stands before it. -/
structure LeftmostSplit (cs : List Char) (tokens : List Token) : Prop where
  /-- The tokens, put together, are the template. -/
  whole : tokens.flatMap Token.raw = cs
  /-- No tag is empty. -/
  tag_ne_nil : ∀ inner, .tag inner ∈ tokens → inner ≠ []
  /-- No text is empty. -/
  text_ne_nil : ∀ chars, .text chars ∈ tokens → chars ≠ []
  /-- No text is followed by a text. -/
  apart : ∀ before first second after, tokens ≠ before ++ .text first :: .text second :: after
  /-- A tag is the one that can start at its position. -/
  tag_starts : ∀ before inner after, tokens = before ++ .tag inner :: after →
    ∀ other, TagAt cs (before.flatMap Token.raw).length other ↔ other = inner
  /-- No tag can start inside a text. -/
  text_free : ∀ before chars after, tokens = before ++ .text chars :: after →
    ∀ k < chars.length, ∀ inner, ¬ TagAt cs ((before.flatMap Token.raw).length + k) inner

/-- What a token must be to stand at the beginning of the split of `cs`, before `tokens`. -/
def Leads (cs : List Char) (tokens : List Token) : Token → Prop
  | .tag inner => Starts cs inner
  | .text chars => chars ≠ [] ∧ (∀ next after, tokens ≠ .text next :: after) ∧
      ∀ k < chars.length, ∀ inner, ¬ TagAt cs k inner

namespace LeftmostSplit

/-- What is left of a template after its first token. -/
theorem drop_raw (token : Token) (rest : List Char) (n : Nat) :
    (token.raw ++ rest).drop (token.raw.length + n) = rest.drop n := by
  rw [List.drop_append, List.drop_eq_nil_of_le (by omega), List.nil_append, Nat.add_sub_cancel_left]

/-- The empty template has the empty split only. -/
theorem nil_iff {tokens : List Token} : LeftmostSplit [] tokens ↔ tokens = [] := by
  constructor
  · intro h
    have hwhole := h.whole
    match tokens with
    | [] => rfl
    | .tag inner :: tokens => simp [Token.raw] at hwhole
    | .text chars :: tokens =>
      have hne := h.text_ne_nil chars (by simp)
      simp [Token.raw, hne] at hwhole
  · rintro rfl
    constructor <;> simp

/-- A split, by its first token and what is left after it. -/
theorem cons_iff {cs : List Char} {token : Token} {tokens : List Token} :
    LeftmostSplit cs (token :: tokens) ↔
      Leads cs tokens token ∧ ∃ rest, cs = token.raw ++ rest ∧ LeftmostSplit rest tokens := by
  constructor
  · intro h
    refine ⟨?_, ?_⟩
    · cases token with
      | tag inner => exact (h.tag_starts [] inner tokens rfl inner).mpr rfl
      | text chars =>
        refine ⟨h.text_ne_nil chars (by simp), ?_, ?_⟩
        · rintro next after rfl
          exact h.apart [] chars next after rfl
        · intro k hk inner
          simpa using h.text_free [] chars tokens rfl k hk inner
    · have hwhole := h.whole
      rw [List.flatMap_cons] at hwhole
      subst hwhole
      refine ⟨_, rfl, rfl, fun inner hmem => h.tag_ne_nil inner (List.mem_cons_of_mem _ hmem),
        fun chars hmem => h.text_ne_nil chars (List.mem_cons_of_mem _ hmem), ?_, ?_, ?_⟩
      · rintro before first second after rfl
        exact h.apart (token :: before) first second after rfl
      · rintro before inner after rfl other
        have := h.tag_starts (token :: before) inner after rfl other
        rwa [List.flatMap_cons, List.length_append, TagAt, drop_raw] at this
      · rintro before chars after rfl k hk inner
        have := h.text_free (token :: before) chars after rfl k hk inner
        rwa [List.flatMap_cons, List.length_append, Nat.add_assoc, TagAt, drop_raw] at this
  · rintro ⟨hleads, rest, rfl, h⟩
    -- each condition holds at the first token by `hleads`, and after it by `h`
    refine ⟨by rw [List.flatMap_cons, h.whole], ?_, ?_, ?_, ?_, ?_⟩
    · intro inner hmem
      obtain rfl | hmem := List.mem_cons.mp hmem
      · exact Starts.ne_nil hleads
      · exact h.tag_ne_nil inner hmem
    · intro chars hmem
      obtain rfl | hmem := List.mem_cons.mp hmem
      · exact hleads.1
      · exact h.text_ne_nil chars hmem
    · intro before first second after heq
      obtain ⟨rfl, heq⟩ | ⟨before, rfl, rfl⟩ := List.cons_eq_append_iff.mp heq
      · cases heq
        exact hleads.2.1 second after rfl
      · exact h.apart before first second after rfl
    · intro before inner after heq
      obtain ⟨rfl, heq⟩ | ⟨before, rfl, rfl⟩ := List.cons_eq_append_iff.mp heq
      · cases heq
        exact fun _ => Starts.unique hleads
      · intro other
        rw [List.flatMap_cons, List.length_append, TagAt, drop_raw]
        exact h.tag_starts before inner after rfl other
    · intro before chars after heq k hk inner
      obtain ⟨rfl, heq⟩ | ⟨before, rfl, rfl⟩ := List.cons_eq_append_iff.mp heq
      · cases heq
        simpa using hleads.2.2 k hk inner
      · rw [List.flatMap_cons, List.length_append, Nat.add_assoc, TagAt, drop_raw]
        exact h.text_free before chars after rfl k hk inner

end LeftmostSplit

/-! ## The scanner's walk -/

/-- Only the characters after the tag just found count. -/
theorem scan_eq_scan_drop (passed : Nat) (cs : List Char) : scan passed cs = scan 0 (cs.drop passed) := by
  induction cs generalizing passed with
  | nil => simp [scan]
  | cons c cs ih =>
    cases passed with
    | zero => rfl
    | succ passed => simpa [scan] using ih passed

/-- Where a tag starts, the scan takes it as a whole. -/
theorem scan_tag {inner rest : List Char} (h : Starts ((Token.tag inner).raw ++ rest) inner) :
    scan 0 ((Token.tag inner).raw ++ rest) = .tag inner :: scan 0 rest := by
  have htag := tag?_eq_some_iff.mpr h
  simp only [raw_tag, List.cons_append] at htag ⊢
  simp only [scan, htag]
  rw [scan_eq_scan_drop, List.drop_left' (by simp [closing])]

/-- Where no tag starts, the scan takes one character as text. -/
theorem scan_literal {c : Char} {cs : List Char} (h : ∀ inner, ¬ Starts (c :: cs) inner) :
    scan 0 (c :: cs) = consLiteral c (scan 0 cs) := by
  rw [scan, tag?_eq_none_iff.mpr h]

theorem consLiteral_of_not_text {c : Char} {tokens : List Token}
    (h : ∀ next after, tokens ≠ .text next :: after) :
    consLiteral c tokens = .text [c] :: tokens := by
  unfold consLiteral
  split
  · exact absurd rfl (h _ _)
  · rfl

/-- Characters in which no tag can start become one text. -/
theorem scan_text {chars rest : List Char} (hne : chars ≠ [])
    (hnext : ∀ next after, scan 0 rest ≠ .text next :: after)
    (hfree : ∀ k < chars.length, ∀ inner, ¬ TagAt (chars ++ rest) k inner) :
    scan 0 (chars ++ rest) = .text chars :: scan 0 rest := by
  induction chars with
  | nil => exact absurd rfl hne
  | cons c chars ih =>
    have hnone : ∀ inner, ¬ Starts (c :: (chars ++ rest)) inner := hfree 0 (by simp)
    rw [List.cons_append, scan_literal hnone]
    cases chars with
    | nil => exact consLiteral_of_not_text hnext
    | cons d chars =>
      rw [ih (by simp) fun k hk inner => hfree (k + 1) (by simpa using hk) inner]
      rfl

/-- A character at which no tag can start, put before a split. -/
theorem LeftmostSplit.consLiteral {c : Char} {cs : List Char} {tokens : List Token}
    (h : LeftmostSplit cs tokens) (hnone : ∀ inner, ¬ Starts (c :: cs) inner) :
    LeftmostSplit (c :: cs) (consLiteral c tokens) := by
  by_cases htext : ∃ chars after, tokens = .text chars :: after
  · obtain ⟨chars, after, rfl⟩ := htext
    obtain ⟨⟨-, hnext, hfree⟩, rest, rfl, hrest⟩ := cons_iff.mp h
    refine cons_iff.mpr ⟨⟨by simp, hnext, ?_⟩, rest, rfl, hrest⟩
    intro k hk inner
    cases k with
    | zero => exact hnone inner
    | succ k => exact hfree k (by simpa using hk) inner
  · have hnext : ∀ next after, tokens ≠ .text next :: after :=
      fun next after heq => htext ⟨next, after, heq⟩
    rw [consLiteral_of_not_text hnext]
    refine cons_iff.mpr ⟨⟨by simp, hnext, ?_⟩, cs, rfl, h⟩
    intro k hk inner
    obtain rfl : k = 0 := by simpa using hk
    exact hnone inner

/-- The scanner splits leftmost. -/
theorem leftmostSplit_scan (cs : List Char) : LeftmostSplit cs (scan 0 cs) := by
  match cs with
  | [] => exact LeftmostSplit.nil_iff.mpr rfl
  | c :: cs =>
    by_cases htag : ∃ inner, Starts (c :: cs) inner
    · obtain ⟨inner, hstarts⟩ := htag
      obtain ⟨rest, hrest⟩ := hstarts.1
      rw [← hrest] at hstarts ⊢
      rw [scan_tag hstarts]
      exact LeftmostSplit.cons_iff.mpr ⟨hstarts, rest, rfl, leftmostSplit_scan rest⟩
    · have hnone := not_exists.mp htag
      rw [scan_literal hnone]
      exact (leftmostSplit_scan cs).consLiteral hnone
termination_by cs.length
decreasing_by
  · have := congrArg List.length hrest
    simp [raw_tag] at this
    simp; omega
  · simp

/-- There is one leftmost split. -/
theorem LeftmostSplit.scan_eq {cs : List Char} {tokens : List Token} (h : LeftmostSplit cs tokens) :
    scan 0 cs = tokens := by
  induction tokens generalizing cs with
  | nil =>
    obtain rfl : [] = cs := h.whole
    rfl
  | cons token tokens ih =>
    obtain ⟨hleads, rest, rfl, hrest⟩ := cons_iff.mp h
    have hscan := ih hrest
    cases token with
    | tag inner => rw [scan_tag hleads, hscan]
    | text chars =>
      obtain ⟨hne, hnext, hfree⟩ := hleads
      rw [← hscan] at hnext ⊢
      exact scan_text hne hnext hfree

/-- **The tokens of a template are its leftmost split**, and it has no other: put together they are
the template, no tag and no text is empty, no two texts are adjacent, every tag is the one that can
start at its position, and no tag can start inside a text. -/
theorem tokenize_eq_iff (template : String) (tokens : List Token) :
    tokenize template = tokens ↔ LeftmostSplit template.toList tokens := by
  constructor
  · rintro rfl
    exact leftmostSplit_scan template.toList
  · exact LeftmostSplit.scan_eq

/-- A template is expanded alike by what is the same for each of its tags. -/
theorem expand_congr {template : String} {f g : List Char → List Char}
    (h : ∀ inner, .tag inner ∈ tokenize template → f inner = g inner) :
    expand f template = expand g template := by
  refine congrArg String.ofList (List.flatMap_congr fun token htoken => ?_)
  cases token with
  | text chars => rfl
  | tag inner => exact h inner htoken

-- A marker may hold closing braces, and an opening that nothing closes is text.
example : tokenize "\x7b\x7bc1::a\x7db\x7d\x7d \x7b\x7bx" =
    [.tag "c1::a\x7db".toList, .text " \x7b\x7bx".toList] := by decide

end Flashcard.Template
