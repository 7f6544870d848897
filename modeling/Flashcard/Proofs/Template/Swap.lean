import Flashcard.Proofs.Template.Tokens
import Mathlib.Data.List.Forall2

/-!
# Other tags in place of tags

Where the tags of a template are replaced by other ones, its tokens are those tokens: no brace of the
text around a tag comes together with one of the new tag, and no unfinished opening before a tag finds
its end in the new one. The tags that go have no closing brace and stay on one line, and the tags that
come have no closing brace.

- `IsTag`, `starts_iff`: whether a tag can start does not depend on what follows it.
- `Starts.of_swap`: a tag that can start before a new one could start before the old one.
- `Swap`: the tokens that can be replaced by others.

## Main statements

- `LeftmostSplit.swap`: the split of a template whose tokens are replaced.
-/

namespace Flashcard.Template

/-! ## Bodies that end at the first double brace -/

theorem endsAtFirst_append {head body : List Char} (h : '}' ∉ head) :
    EndsAtFirst (head ++ body) ↔ EndsAtFirst body := by
  induction head with
  | nil => rfl
  | cons c head ih =>
    rw [List.mem_cons, not_or] at h
    rw [List.cons_append, endsAtFirst_cons, ih h.2]
    refine and_iff_right ?_
    simp [closing, h.1]

theorem endsAtFirst_of_not_mem {body : List Char} (h : '}' ∉ body) : EndsAtFirst body := by
  have happend : EndsAtFirst (body ++ []) := (endsAtFirst_append h).mpr endsAtFirst_nil
  rwa [List.append_nil] at happend

/-- What follows an opening brace may be replaced by anything without a closing brace. -/
theorem endsAtFirst_append_open {v w w' : List Char} (hw : '}' ∉ w)
    (h : EndsAtFirst (v ++ '{' :: w')) : EndsAtFirst (v ++ '{' :: w) := by
  induction v with
  | nil => exact endsAtFirst_of_not_mem (by simpa using hw)
  | cons c v ih =>
    rw [List.cons_append, endsAtFirst_cons] at h ⊢
    refine ⟨?_, ih h.2⟩
    -- a double brace that begins with `c` lies in `v`, or meets the opening brace
    cases v with
    | nil => simp [closing]
    | cons d v => simpa [closing] using h.1

theorem EndsAtFirst.length_le {body other cs : List Char} (h : EndsAtFirst body)
    (hbody : body ++ closing <+: cs) (hother : other ++ closing <+: cs) :
    body.length ≤ other.length := by
  by_contra hlt
  have hshorter : (other ++ closing).length ≤ (body ++ closing).length := by
    rw [List.length_append, List.length_append]
    omega
  obtain ⟨after, heq⟩ := List.prefix_of_prefix_length_le hother hbody hshorter
  exact hlt (h other after heq.symm)

/-! ## Tags -/

/-- The inside of a tag of either form. -/
def IsTag (inner : List Char) : Prop := IsMarker inner ∨ IsPlain inner

theorem closing_not_mem_markerHead {digits : List Char} (h : ∀ d ∈ digits, Text.isDigit d) :
    '}' ∉ 'c' :: digits ++ [':', ':'] := by
  have hdigits : '}' ∉ digits := fun hmem => absurd (h _ hmem) (by decide)
  simp [hdigits]

theorem IsTag.endsAtFirst {inner : List Char} (h : IsTag inner) : EndsAtFirst inner := by
  rcases h with ⟨digits, body, rfl, -, hdigits, -, hends⟩ | ⟨-, hinner⟩
  · have hsplit : 'c' :: digits ++ ':' :: ':' :: body = ('c' :: digits ++ [':', ':']) ++ body := by
      simp
    rw [hsplit]
    exact (endsAtFirst_append (closing_not_mem_markerHead hdigits)).mpr hends
  · exact endsAtFirst_of_not_mem hinner

theorem raw_prefix_iff {inner cs : List Char} :
    (Token.tag inner).raw <+: '{' :: '{' :: cs ↔ inner ++ closing <+: cs := by
  simp [raw_tag]

/-- Two tags at one place are the same, as each ends at the first double brace. -/
theorem IsTag.unique {inner other cs : List Char} (h : IsTag inner) (h' : IsTag other)
    (hinner : (Token.tag inner).raw <+: cs) (hother : (Token.tag other).raw <+: cs) :
    other = inner := by
  obtain ⟨rest, rfl⟩ := hinner
  have hother : other ++ closing <+: inner ++ closing ++ rest := raw_prefix_iff.mp hother
  have hinner : inner ++ closing <+: inner ++ closing ++ rest := List.prefix_append _ _
  have hlength := Nat.le_antisymm (h'.endsAtFirst.length_le hother hinner)
    (h.endsAtFirst.length_le hinner hother)
  have hbegins : other <+: inner ++ closing ++ rest := (List.prefix_append _ _).trans hother
  rw [List.append_assoc] at hbegins
  exact (List.prefix_of_prefix_length_le hbegins (List.prefix_append ..) hlength.le).eq_of_length
    hlength

/-- **Whether a tag can start is told by the tag alone.** -/
theorem starts_iff {cs inner : List Char} :
    Starts cs inner ↔ (Token.tag inner).raw <+: cs ∧ IsTag inner := by
  refine and_congr_right fun hbegins => ?_
  constructor
  · exact Or.imp_right And.left
  · rintro (hmarker | hplain)
    · exact Or.inl hmarker
    · by_cases hmarker : IsMarker inner
      · exact Or.inl hmarker
      · refine Or.inr ⟨hplain, fun other hother hmarker' => hmarker ?_⟩
        rwa [← IsTag.unique (Or.inr hplain) (Or.inl hmarker') hbegins hother]

/-- A tag alone is its only token. -/
theorem scan_raw {inner : List Char} (h : IsTag inner) :
    scan 0 (Token.tag inner).raw = [.tag inner] := by
  have hstarts : Starts ((Token.tag inner).raw ++ []) inner :=
    starts_iff.mpr ⟨List.prefix_append _ _, h⟩
  rw [← List.append_nil (Token.raw _), scan_tag hstarts, scan]

/-- A tag ends no later than at a double brace behind its opening. -/
theorem IsTag.prefix_of_closing {inner x rest : List Char} (h : IsTag inner) (hx : 2 ≤ x.length)
    (hbegins : (Token.tag inner).raw <+: x ++ closing ++ rest) :
    (Token.tag inner).raw <+: x ++ closing := by
  match x, hx with
  | a :: b :: y, _ =>
    obtain ⟨rfl, rfl⟩ : '{' = a ∧ '{' = b := by
      simp only [raw_tag, List.cons_append, List.cons_prefix_cons] at hbegins
      exact ⟨hbegins.1, hbegins.2.1⟩
    have hbegins : inner ++ closing <+: y ++ closing ++ rest := raw_prefix_iff.mp hbegins
    have hlength := h.endsAtFirst.length_le hbegins (List.prefix_append _ _)
    have hprefix : inner ++ closing <+: y ++ closing := by
      refine List.prefix_of_prefix_length_le hbegins (List.prefix_append _ _) ?_
      rw [List.length_append, List.length_append]
      omega
    exact raw_prefix_iff.mpr hprefix

/-! ## A tag in place of another one -/

/-- A double brace that ends in characters followed by a tag without closing braces ends in these
characters, or with the tag. -/
theorem closing_cases {u s w : List Char} (hne : w ≠ []) (hw : '}' ∉ w)
    (h : u ++ closing <+: s ++ (w ++ closing)) : u ++ closing <+: s ∨ u = s ++ w := by
  obtain ⟨t, ht⟩ := h
  rw [List.append_assoc] at ht
  rcases List.append_eq_append_iff.mp ht with ⟨s', rfl, hs'⟩ | ⟨u', rfl, hu'⟩
  · left
    obtain ⟨c, w, rfl⟩ := List.exists_cons_of_ne_nil hne
    rw [List.mem_cons, not_or] at hw
    match s' with
    | [] => simp [closing, hw.1] at hs'
    | [d] => simp [closing, hw.1] at hs'
    | d :: e :: s' =>
      simp only [closing, List.cons_append, List.nil_append, List.cons.injEq] at hs'
      rw [← hs'.1, ← hs'.2.1]
      exact ⟨s', by simp [closing]⟩
  · right
    have hbefore := endsAtFirst_of_not_mem hw u' t (by rw [hu', List.append_assoc])
    have hlength := congrArg List.length hu'
    simp only [List.length_append] at hlength
    rw [(List.append_inj hu' (by omega)).1]

/-- An opening brace is in no head of a marker, so what stands behind one can be replaced. -/
theorem IsTag.replace {u w w' : List Char} (hw : '}' ∉ w) (hline : '\n' ∉ w)
    (h : IsTag (u ++ '{' :: '{' :: w')) : IsTag (u ++ '{' :: '{' :: w) := by
  rcases h with ⟨digits, body, heq, hne, hdigits, hbody, hends⟩ | ⟨-, hplain⟩
  · left
    have hopen : '{' ∉ 'c' :: digits ++ [':', ':'] := by
      have hdigits : '{' ∉ digits := fun hmem => absurd (hdigits _ hmem) (by decide)
      simp [hdigits]
    have hsplit : ('c' :: digits ++ [':', ':']) ++ body = u ++ '{' :: '{' :: w' := by
      rw [heq]
      simp
    rcases List.append_eq_append_iff.mp hsplit with ⟨v, rfl, rfl⟩ | ⟨z, hz, hbody'⟩
    · refine ⟨digits, v ++ '{' :: '{' :: w, by simp, hne, hdigits, ?_, ?_⟩
      · simp only [List.mem_append, List.mem_cons, not_or] at hbody ⊢
        exact ⟨hbody.1, hbody.2.1, hbody.2.2.1, hline⟩
      · exact endsAtFirst_append_open (by simpa using hw) hends
    · cases z with
      | nil =>
        -- the marker's body begins right at the opening
        rw [List.append_nil] at hz
        rw [List.nil_append] at hbody'
        subst hz hbody'
        refine ⟨digits, '{' :: '{' :: w, by simp, hne, hdigits, by simpa using hline, ?_⟩
        exact endsAtFirst_of_not_mem (by simpa using hw)
      | cons c z =>
        rw [List.cons_append, List.cons.injEq] at hbody'
        refine absurd ?_ hopen
        rw [hz, hbody'.1]
        simp
  · right
    refine ⟨by simp, ?_⟩
    simp only [List.mem_append, List.mem_cons, not_or] at hplain ⊢
    exact ⟨hplain.1, hplain.2.1, hplain.2.2.1, hw⟩

/-- **No tag can start before a new tag that could not start before the old one.** -/
theorem Starts.of_swap {s w w' r r' inner : List Char} (hs : s ≠ [])
    (hw : '}' ∉ w) (hline : '\n' ∉ w) (hw' : '}' ∉ w')
    (h : Starts (s ++ ((Token.tag w').raw ++ r')) inner) :
    ∃ other, Starts (s ++ ((Token.tag w).raw ++ r)) other := by
  obtain ⟨hbegins, htag⟩ := starts_iff.mp h
  have hlong : 2 ≤ (s ++ '{' :: '{' :: w').length := by
    simp
    omega
  have hclosed : (Token.tag inner).raw <+: s ++ '{' :: '{' :: w' ++ closing ++ r' := by
    simpa [raw_tag] using hbegins
  have hbegins := htag.prefix_of_closing hlong hclosed
  -- the tag ends before the new one, or with it
  have hcases := closing_cases (u := '{' :: '{' :: inner) (s := s) (w := '{' :: '{' :: w')
    (by simp) (by simpa using hw') (by simpa [raw_tag] using hbegins)
  rcases hcases with hbefore | hwith
  · exact ⟨inner, starts_iff.mpr
      ⟨hbefore.trans (List.prefix_append _ _), htag⟩⟩
  · match s, hs with
    | [c], _ =>
      -- one more brace before the opening of the new tag, so it was not text before
      obtain ⟨rfl, rfl⟩ : '{' = c ∧ inner = '{' :: w' := by simpa using hwith
      refine ⟨'{' :: w, starts_iff.mpr ⟨⟨r, by simp [raw_tag]⟩, Or.inr ⟨by simp, ?_⟩⟩⟩
      simpa using hw
    | c :: d :: u, _ =>
      obtain ⟨rfl, rfl, rfl⟩ : '{' = c ∧ '{' = d ∧ inner = u ++ '{' :: '{' :: w' := by
        simpa using hwith
      exact ⟨u ++ '{' :: '{' :: w, starts_iff.mpr
        ⟨⟨r, by simp [raw_tag]⟩, htag.replace hw hline⟩⟩

/-! ## Templates -/

/-- The tokens that can be replaced by others: a tag that has no closing brace and no line feed in it,
by a tag without a closing brace. All other tokens stay. -/
inductive Swap : Token → Token → Prop where
  | same (token : Token) : Swap token token
  | tag {w w' : List Char} (closed : '}' ∉ w) (line : '\n' ∉ w) (plain : IsPlain w') :
      Swap (.tag w) (.tag w')

/-- A text stays free of tags when the tokens behind it are replaced. -/
theorem free_of_swap {s : List Char} {tokens tokens' : List Token} {inner : List Char}
    (hs : s ≠ []) (hnext : ∀ next after, tokens ≠ .text next :: after)
    (hsplit : LeftmostSplit (tokens.flatMap Token.raw) tokens)
    (h : List.Forall₂ Swap tokens tokens')
    (hstarts : Starts (s ++ tokens'.flatMap Token.raw) inner) :
    ∃ other, Starts (s ++ tokens.flatMap Token.raw) other := by
  cases h with
  | nil => exact ⟨inner, hstarts⟩
  | @cons token token' tokens tokens' hswap hrest =>
    rw [List.flatMap_cons] at hstarts ⊢
    cases hswap with
    | tag closed line plain =>
      exact hstarts.of_swap hs closed line plain.2
    | same token =>
      cases token with
      | text next => exact absurd rfl (hnext next tokens)
      | tag w =>
        -- whatever starts before the tag ends by the end of it
        obtain ⟨hbegins, htag⟩ := starts_iff.mp hstarts
        have hlong : 2 ≤ (s ++ '{' :: '{' :: w).length := by
          simp
          omega
        have hclosed : (Token.tag inner).raw <+:
            s ++ '{' :: '{' :: w ++ closing ++ tokens'.flatMap Token.raw := by
          simpa [raw_tag] using hbegins
        have hbegins := htag.prefix_of_closing hlong hclosed
        refine ⟨inner, starts_iff.mpr ⟨?_, htag⟩⟩
        refine hbegins.trans ⟨tokens.flatMap Token.raw, ?_⟩
        simp [raw_tag]

/-- **The split of a template goes along with the tokens**: where they are replaced by others, these
are the leftmost split of what they make up. -/
theorem LeftmostSplit.swap {cs : List Char} {tokens tokens' : List Token}
    (hsplit : LeftmostSplit cs tokens) (h : List.Forall₂ Swap tokens tokens') :
    LeftmostSplit (tokens'.flatMap Token.raw) tokens' := by
  induction h generalizing cs with
  | nil => exact nil_iff.mpr rfl
  | @cons token token' tokens tokens' hswap hrest ih =>
    obtain ⟨hleads, rest, rfl, hsplit'⟩ := cons_iff.mp hsplit
    refine cons_iff.mpr ⟨?_, _, List.flatMap_cons, ih hsplit'⟩
    rw [List.flatMap_cons]
    cases hswap with
    | tag closed line plain =>
      exact starts_iff.mpr ⟨List.prefix_append _ _, Or.inr plain⟩
    | same token =>
      cases token with
      | tag inner => exact starts_iff.mpr ⟨List.prefix_append _ _, (starts_iff.mp hleads).2⟩
      | text chars =>
        obtain ⟨hne, hnext, hfree⟩ := hleads
        obtain rfl : tokens.flatMap Token.raw = rest := hsplit'.whole
        refine ⟨hne, ?_, ?_⟩
        · -- a token is replaced by one of its own kind
          rintro next after rfl
          cases hrest with
          | cons hswap _ =>
            cases hswap with
            | same _ => exact hnext _ _ rfl
        · intro k hk inner hstarts
          have hdrop : ∀ rest : List Char, ((Token.text chars).raw ++ rest).drop k =
              chars.drop k ++ rest := fun rest => List.drop_append_of_le_length hk.le
          rw [TagAt, hdrop] at hstarts
          have hs : chars.drop k ≠ [] := by simpa using hk
          obtain ⟨other, hother⟩ := free_of_swap hs hnext hsplit' hrest hstarts
          refine hfree k hk other ?_
          rwa [TagAt, hdrop]

end Flashcard.Template
