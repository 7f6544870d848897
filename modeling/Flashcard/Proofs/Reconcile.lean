import Flashcard.NoteType.Stock
import Flashcard.Reconcile
import Mathlib.Data.List.Dedup
import Mathlib.Data.List.Nodup

/-!
# Fitting is exact

The plan of `reconcile` accounts for each stored card once, and carrying it out leaves one card for
each identity among the drafts: the stored card of lowest id where there is one, with its history,
and a new card elsewhere.

- `mem_firstOfEach`: an element counts when it is the first one with its key.
- `Reconcile.kept`, `wanted`, `fresh`, `matched`, `gone`: the stages of `reconcile`.
- `ReconcilePlan.outcome`: the cards of the note once the plan is carried out.
- `Reconcile.outcome_drafts`: these show the drafts that count, each once.
- `Reconcile.isNoop_of_drafts`: cards that do so already are left alone.
- `ReconcilePlan.Exact`, `reconcile_exact`: all that a plan has to be, and when there is one.
-/

namespace Flashcard

/-! ## The first of each key -/

section FirstOfEach

variable {α κ : Type} [DecidableEq κ] {key : α → κ}

/-- Where keys differ, a search by key finds the one element that has it. -/
theorem find?_key_eq_some_iff {l : List α} (distinct : (l.map key).Nodup) {k : κ} {a : α} :
    l.find? (key · = k) = some a ↔ a ∈ l ∧ key a = k := by
  constructor
  · intro h
    exact ⟨List.mem_of_find?_eq_some h, by simpa using List.find?_some h⟩
  · rintro ⟨hmem, rfl⟩
    cases hfind : l.find? (key · = key a) with
    | none =>
      have hne : key a ≠ key a := by simpa using List.find?_eq_none.mp hfind a hmem
      exact absurd rfl hne
    | some b =>
      have hkey : key b = key a := by simpa using List.find?_some hfind
      rw [List.inj_on_of_nodup_map distinct (List.mem_of_find?_eq_some hfind) hmem hkey]

/-- The first of each key are found by looking for the key, unless it was seen before. -/
theorem mem_firstOfEachAfter {seen : List κ} {l : List α} {a : α} :
    a ∈ firstOfEachAfter key seen l ↔ key a ∉ seen ∧ l.find? (key · = key a) = some a := by
  -- the keys seen so far grow along the list, so the induction is over all of them
  induction l generalizing seen with
  | nil => simp [firstOfEachAfter]
  | cons b rest ih =>
    rw [firstOfEachAfter, List.find?_cons]
    by_cases hkey : key b = key a
    · by_cases hseen : key b ∈ seen
      · rw [if_pos hseen, ih, ← hkey]
        simp [hseen]
      · rw [if_neg hseen, List.mem_cons, ih, ← hkey]
        simp [hseen, eq_comm]
    · have hne : a ≠ b := fun h => hkey (by rw [h])
      by_cases hseen : key b ∈ seen
      · rw [if_pos hseen, ih]
        simp [hkey]
      · rw [if_neg hseen, List.mem_cons, ih]
        simp [hkey, hne, Ne.symm hkey]

/-- An element counts when it is the first one with its key. -/
theorem mem_firstOfEach {l : List α} {a : α} :
    a ∈ firstOfEach key l ↔ l.find? (key · = key a) = some a := by
  simp [firstOfEach, mem_firstOfEachAfter]

theorem mem_of_mem_firstOfEach {l : List α} {a : α} (h : a ∈ firstOfEach key l) : a ∈ l :=
  List.mem_of_find?_eq_some (mem_firstOfEach.mp h)

/-- Each key has an element that counts. -/
theorem exists_mem_firstOfEach {l : List α} {a : α} (h : a ∈ l) :
    ∃ b ∈ firstOfEach key l, key b = key a := by
  cases hfind : l.find? (key · = key a) with
  | none =>
    have hne : key a ≠ key a := by simpa using List.find?_eq_none.mp hfind a h
    exact absurd rfl hne
  | some b =>
    have hkey : key b = key a := by simpa using List.find?_some hfind
    exact ⟨b, mem_firstOfEach.mpr (hkey ▸ hfind), hkey⟩

/-- The first of each key have distinct keys. -/
theorem nodup_keys_firstOfEachAfter (seen : List κ) (l : List α) :
    ((firstOfEachAfter key seen l).map key).Nodup := by
  induction l generalizing seen with
  | nil => exact List.nodup_nil
  | cons b rest ih =>
    rw [firstOfEachAfter]
    split
    · exact ih seen
    · refine List.nodup_cons.mpr ⟨?_, ih _⟩
      intro hmem
      obtain ⟨a, ha, hkey⟩ := List.mem_map.mp hmem
      exact (mem_firstOfEachAfter.mp ha).1 (hkey ▸ List.mem_cons_self ..)

/-- The elements that count have different keys. -/
theorem nodup_keys_firstOfEach (l : List α) : ((firstOfEach key l).map key).Nodup :=
  nodup_keys_firstOfEachAfter [] l

/-- The first of each key and the later ones are together what there was. -/
theorem firstOfEachAfter_append_laterOfEachAfter (seen : List κ) (l : List α) :
    (firstOfEachAfter key seen l ++ laterOfEachAfter key seen l).Perm l := by
  induction l generalizing seen with
  | nil => exact List.Perm.refl _
  | cons b rest ih =>
    rw [firstOfEachAfter, laterOfEachAfter]
    split
    · exact List.perm_middle.trans ((ih seen).cons b)
    · exact (ih (key b :: seen)).cons b

/-- The elements that count and the others make up the list. -/
theorem firstOfEach_append_laterOfEach (l : List α) :
    (firstOfEach key l ++ laterOfEach key l).Perm l :=
  firstOfEachAfter_append_laterOfEachAfter [] l

/-- Where all keys differ, all elements count. -/
theorem firstOfEach_eq_self {l : List α} (h : (l.map key).Nodup) : firstOfEach key l = l := by
  have hall : ∀ (seen : List κ), (∀ a ∈ l, key a ∉ seen) → firstOfEachAfter key seen l = l := by
    induction l with
    | nil => exact fun _ _ => rfl
    | cons b rest ih =>
      intro seen hseen
      obtain ⟨hb, hrest⟩ := List.nodup_cons.mp h
      rw [firstOfEachAfter, if_neg (hseen b (List.mem_cons_self ..)), ih hrest]
      intro a ha hmem
      rcases List.mem_cons.mp hmem with heq | hmem
      · exact hb (heq ▸ List.mem_map_of_mem ha)
      · exact hseen a (List.mem_cons_of_mem _ ha) hmem
  exact hall [] fun _ _ => List.not_mem_nil

/-- There are no later ones among distinct keys. -/
theorem laterOfEach_eq_nil {l : List α} (h : (l.map key).Nodup) : laterOfEach key l = [] := by
  have hperm : (firstOfEach key l ++ laterOfEach key l).Perm l := firstOfEach_append_laterOfEach l
  have hlength := hperm.length_eq
  rw [firstOfEach_eq_self h, List.length_append] at hlength
  exact List.length_eq_zero_iff.mp (by omega)

/-- What changes no key changes nothing about which elements count. -/
theorem firstOfEach_map {β : Type} {key' : β → κ} {f : α → β} (h : ∀ a, key' (f a) = key a)
    (l : List α) : firstOfEach key' (l.map f) = (firstOfEach key l).map f := by
  have hall : ∀ seen : List κ,
      firstOfEachAfter key' seen (l.map f) = (firstOfEachAfter key seen l).map f := by
    induction l with
    | nil => exact fun _ => rfl
    | cons a rest ih =>
      intro seen
      rw [List.map_cons, firstOfEachAfter, firstOfEachAfter, h, ih, ih]
      split <;> rfl
  exact hall []

/-- A map that keeps the keys keeps who is later. -/
theorem laterOfEach_map {β : Type} {key' : β → κ} {f : α → β} (h : ∀ a, key' (f a) = key a)
    (l : List α) : laterOfEach key' (l.map f) = (laterOfEach key l).map f := by
  have hall : ∀ seen : List κ,
      laterOfEachAfter key' seen (l.map f) = (laterOfEachAfter key seen l).map f := by
    induction l with
    | nil => exact fun _ => rfl
    | cons a rest ih =>
      intro seen
      rw [List.map_cons, laterOfEachAfter, laterOfEachAfter, h, ih, ih]
      split <;> rfl
  exact hall []

/-- In a sorted list the first element of a key comes before all others of that key. -/
theorem rel_of_mem_firstOfEach {r : α → α → Prop} {l : List α} (hsorted : l.Pairwise r)
    {a b : α} (ha : a ∈ firstOfEach key l) (hb : b ∈ l) (hkey : key b = key a) :
    a = b ∨ r a b := by
  obtain ⟨-, before, after, rfl, hbefore⟩ :=
    List.find?_eq_some_iff_append.mp (mem_firstOfEach.mp ha)
  rcases List.mem_append.mp hb with hb | hb
  · exact absurd hkey (by simpa using hbefore b hb)
  · rcases List.mem_cons.mp hb with rfl | hb
    · exact Or.inl rfl
    · exact Or.inr ((List.pairwise_cons.mp (List.pairwise_append.mp hsorted).2.1).1 b hb)

end FirstOfEach

/-! ## The stages of a plan -/

/-- What a card shows, as a draft of its identity. -/
def Card.draft (c : Card) : CardDraft := ⟨c.templateName, c.ordinal, c.front, c.back⟩

@[simp] theorem Card.identity_draft (c : Card) : c.draft.identity = c.identity := rfl

/-- The cards of a note once its plan is carried out: without the deleted ones, with the updated
ones in place of their old versions, and with the new ones. -/
def ReconcilePlan.outcome (plan : ReconcilePlan) (cards : List Card) : List Card :=
  (cards.filter (·.id ∉ plan.toDelete)).map
    (fun c => (plan.toUpdate.find? (·.id = c.id)).getD c) ++ plan.toCreate

namespace ReconcilePlan

variable (plan : ReconcilePlan) {cards : List Card} {c : Card}

/-- An update keeps the id. -/
theorem id_updated (c : Card) : ((plan.toUpdate.find? (·.id = c.id)).getD c).id = c.id := by
  cases hupdate : plan.toUpdate.find? (·.id = c.id) with
  | none => rfl
  | some u => simpa using List.find?_some hupdate

/-- The cards after a plan: the old ones that are not deleted, updated where the plan says so, and
the new ones. -/
theorem mem_outcome_iff :
    c ∈ plan.outcome cards ↔
      (∃ c₀ ∈ cards, c₀.id ∉ plan.toDelete ∧
        c = (plan.toUpdate.find? (·.id = c₀.id)).getD c₀) ∨ c ∈ plan.toCreate := by
  rw [outcome, List.mem_append, List.mem_map]
  refine or_congr_left (exists_congr ?_)
  intro c₀
  rw [List.mem_filter, decide_eq_true_eq, and_assoc, eq_comm]

/-- A plan does nothing exactly if it creates, updates and deletes nothing. -/
theorem isNoop_iff : plan.isNoop = true ↔
    plan.toCreate = [] ∧ plan.toUpdate = [] ∧ plan.toDelete = [] := by
  simp only [isNoop, Bool.and_eq_true, List.isEmpty_iff, and_assoc]

/-- A card that is not deleted is still there, if only under its id. -/
theorem exists_mem_outcome (hc : c ∈ cards) (hdel : c.id ∉ plan.toDelete) :
    ∃ c' ∈ plan.outcome cards, c'.id = c.id :=
  ⟨_, plan.mem_outcome_iff.mpr (Or.inl ⟨c, hc, hdel, rfl⟩), plan.id_updated c⟩

end ReconcilePlan

namespace Reconcile

/-- The stored cards that count: of each identity the one of lowest id. -/
def kept (existing : List Card) : List Card :=
  firstOfEach Card.identity (existing.mergeSort fun a b => a.id ≤ b.id)

/-- The drafts that count: of each identity the first one. -/
def wanted (drafts : List CardDraft) : List CardDraft := firstOfEach CardDraft.identity drafts

/-- The wanted drafts without a stored card. -/
def fresh (existing : List Card) (drafts : List CardDraft) : List CardDraft :=
  (wanted drafts).filter fun d => (match? (kept existing) d).isNone

/-- The wanted drafts with a stored card, behind that card. -/
def matched (existing : List Card) (drafts : List CardDraft) : List (Card × CardDraft) :=
  (wanted drafts).filterMap fun d => (match? (kept existing) d).map fun c => (c, d)

/-- The cards that count but are not wanted. -/
def gone (existing : List Card) (drafts : List CardDraft) : List Card :=
  (kept existing).filter fun c => c.identity ∉ (wanted drafts).map CardDraft.identity

/-- The cards that do not count. -/
def surplus (existing : List Card) : List Card :=
  laterOfEach Card.identity (existing.mergeSort fun a b => a.id ≤ b.id)

/-- The card that a matched card becomes. -/
def settle (ctx : ReconcileContext) (c : Card) (d : CardDraft) : Card :=
  if shows c d then c else refresh ctx c d

variable {existing : List Card} {drafts : List CardDraft}

/-- A card shows a draft exactly if its sides are the draft's. -/
theorem shows_iff {c : Card} {d : CardDraft} :
    shows c d = true ↔ c.front = d.front ∧ c.back = d.back := by
  simp [shows]

/-- A matched card stays what it is, but for its content and mark. -/
theorem settle_eq (ctx : ReconcileContext) (c : Card) (d : CardDraft) :
    ∃ front back usn, settle ctx c d = { c with front, back, usn } := by
  rw [settle]
  split
  · exact ⟨c.front, c.back, c.usn, rfl⟩
  · exact ⟨d.front, d.back, ctx.usn, rfl⟩

@[simp] theorem id_settle (ctx : ReconcileContext) (c : Card) (d : CardDraft) :
    (settle ctx c d).id = c.id := by
  obtain ⟨_, _, _, h⟩ := settle_eq ctx c d
  rw [h]

@[simp] theorem noteId_settle (ctx : ReconcileContext) (c : Card) (d : CardDraft) :
    (settle ctx c d).noteId = c.noteId := by
  obtain ⟨_, _, _, h⟩ := settle_eq ctx c d
  rw [h]

@[simp] theorem identity_settle (ctx : ReconcileContext) (c : Card) (d : CardDraft) :
    (settle ctx c d).identity = c.identity := by
  obtain ⟨_, _, _, h⟩ := settle_eq ctx c d
  rw [h]
  rfl

/-! ### Which cards and drafts count -/

/-- A kept card has the least id of those with its identity. -/
theorem mem_kept {c : Card} (h : c ∈ kept existing) :
    c ∈ existing ∧ ∀ c' ∈ existing, c'.identity = c.identity → c.id ≤ c'.id := by
  have hperm := existing.mergeSort_perm fun a b => a.id ≤ b.id
  -- after sorting by id, the first card of an identity is the one of lowest id
  have hsorted : (existing.mergeSort fun a b => a.id ≤ b.id).Pairwise (·.id ≤ ·.id) := by
    refine (List.pairwise_mergeSort ?_ ?_ existing).imp (by simp)
    · intro a b c hab hbc
      simp only [decide_eq_true_eq] at hab hbc ⊢
      exact Int.le_trans hab hbc
    · intro a b
      simp only [Bool.or_eq_true, decide_eq_true_eq]
      exact Int.le_total a.id b.id
  refine ⟨hperm.mem_iff.mp (mem_of_mem_firstOfEach h), ?_⟩
  intro c' hc' hid
  rcases rel_of_mem_firstOfEach hsorted h (hperm.mem_iff.mpr hc') hid with rfl | hle
  · exact Int.le_refl _
  · exact hle

/-- Of the cards with one identity one is kept. -/
theorem exists_mem_kept {c : Card} (h : c ∈ existing) :
    ∃ c₀ ∈ kept existing, c₀.identity = c.identity :=
  exists_mem_firstOfEach ((existing.mergeSort_perm _).mem_iff.mpr h)

theorem nodup_identities_kept (existing : List Card) :
    ((kept existing).map Card.identity).Nodup := nodup_keys_firstOfEach _

/-- A card is kept or surplus. -/
theorem kept_append_surplus (existing : List Card) :
    (kept existing ++ surplus existing).Perm existing :=
  (firstOfEach_append_laterOfEach _).trans (existing.mergeSort_perm _)

/-- Where identities differ, all cards count. -/
theorem surplus_eq_nil (single : (existing.map Card.identity).Nodup) : surplus existing = [] :=
  laterOfEach_eq_nil (((existing.mergeSort_perm _).map Card.identity).nodup_iff.mpr single)

/-- Where ids differ, the card of lowest id with its identity counts. -/
theorem mem_kept_of_lowest (distinct : (existing.map (·.id)).Nodup) {c : Card} (h : c ∈ existing)
    (lowest : ∀ c' ∈ existing, c'.identity = c.identity → c.id ≤ c'.id) : c ∈ kept existing := by
  obtain ⟨c₀, hkept, hid⟩ := exists_mem_kept h
  obtain ⟨hmem, hle⟩ := mem_kept hkept
  have heq : c₀.id = c.id := Int.le_antisymm (hle c h hid.symm) (lowest c₀ hmem hid)
  exact List.inj_on_of_nodup_map distinct hmem h heq ▸ hkept

/-- A draft is wanted if it is the first with its identity. -/
theorem mem_wanted {d : CardDraft} :
    d ∈ wanted drafts ↔ drafts.find? (·.identity = d.identity) = some d := mem_firstOfEach

theorem nodup_identities_wanted (drafts : List CardDraft) :
    ((wanted drafts).map CardDraft.identity).Nodup := nodup_keys_firstOfEach _

/-- Wanted drafts have the identities of all drafts. -/
theorem mem_identities_wanted {i : CardIdentity} :
    i ∈ (wanted drafts).map CardDraft.identity ↔ i ∈ drafts.map CardDraft.identity := by
  constructor
  · intro h
    obtain ⟨d, hd, rfl⟩ := List.mem_map.mp h
    exact List.mem_map_of_mem (mem_of_mem_firstOfEach hd)
  · intro h
    obtain ⟨d, hd, rfl⟩ := List.mem_map.mp h
    obtain ⟨d', hd', hid⟩ : ∃ d' ∈ wanted drafts, d'.identity = d.identity :=
      exists_mem_firstOfEach hd
    exact hid ▸ List.mem_map_of_mem hd'

/-! ### Matching -/

/-- A draft matches the kept card with its identity. -/
theorem match?_kept {c : Card} {d : CardDraft} :
    match? (kept existing) d = some c ↔ c ∈ kept existing ∧ c.identity = d.identity :=
  find?_key_eq_some_iff (nodup_identities_kept existing)

/-- Matched are a kept card and a wanted draft with the same identity. -/
theorem mem_matched {p : Card × CardDraft} :
    p ∈ matched existing drafts ↔
      p.2 ∈ wanted drafts ∧ p.1 ∈ kept existing ∧ p.1.identity = p.2.identity := by
  obtain ⟨c, d⟩ := p
  simp only [matched, List.mem_filterMap, Option.map_eq_some_iff, match?_kept, Prod.mk.injEq]
  constructor
  · rintro ⟨d', hd', c', hc', rfl, rfl⟩
    exact ⟨hd', hc'⟩
  · rintro ⟨hd, hc⟩
    exact ⟨d, hd, c, hc, rfl, rfl⟩

/-- A draft is fresh if it is wanted and no card has its identity. -/
theorem mem_fresh {d : CardDraft} :
    d ∈ fresh existing drafts ↔
      d ∈ wanted drafts ∧ ∀ c ∈ existing, c.identity ≠ d.identity := by
  rw [fresh, List.mem_filter, Option.isNone_iff_eq_none]
  refine and_congr_right fun _ => ?_
  constructor
  · intro hnone c hc hid
    obtain ⟨c₀, hkept, hid₀⟩ := exists_mem_kept hc
    rw [match?_kept.mpr ⟨hkept, hid₀.trans hid⟩] at hnone
    cases hnone
  · intro hall
    refine Option.eq_none_iff_forall_ne_some.mpr ?_
    intro c hc
    obtain ⟨hkept, hid⟩ := match?_kept.mp hc
    exact hall c (mem_kept hkept).1 hid

/-- The wanted drafts are those with a card and those without. -/
theorem matched_append_fresh (existing : List Card) (drafts : List CardDraft) :
    ((matched existing drafts).map (·.2) ++ fresh existing drafts).Perm (wanted drafts) := by
  have hsplit : (matched existing drafts).map (·.2) =
      (wanted drafts).filter fun d => !(match? (kept existing) d).isNone := by
    rw [matched, List.map_filterMap, ← List.filterMap_eq_filter]
    refine List.filterMap_congr ?_
    intro d _
    cases h : match? (kept existing) d <;> simp [Option.guard, h]
  rw [hsplit, fresh]
  exact List.perm_append_comm.trans (List.filter_append_perm _ _)

/-- No card is matched twice. -/
theorem nodup_cards_matched (existing : List Card) (drafts : List CardDraft) :
    ((matched existing drafts).map (·.1)).Nodup := by
  -- the cards have the identities of their drafts, and no two wanted drafts share one
  have hids : ((matched existing drafts).map (·.1)).map Card.identity =
      ((matched existing drafts).map (·.2)).map CardDraft.identity := by
    rw [List.map_map, List.map_map]
    exact List.map_congr_left fun p hp => (mem_matched.mp hp).2.2
  have hwanted := ((matched_append_fresh existing drafts).map CardDraft.identity).nodup_iff.mpr
    (nodup_identities_wanted drafts)
  rw [List.map_append] at hwanted
  refine List.Nodup.of_map Card.identity ?_
  rw [hids]
  exact (List.nodup_append.mp hwanted).1

/-- The cards that count are those with a draft and those without. -/
theorem matched_append_gone (existing : List Card) (drafts : List CardDraft) :
    ((matched existing drafts).map (·.1) ++ gone existing drafts).Perm (kept existing) := by
  have hnodup := nodup_cards_matched existing drafts
  have hkept : (kept existing).Nodup := List.Nodup.of_map _ (nodup_identities_kept existing)
  -- both lists are without repetition, so that having the same elements is enough
  have hperm : ((matched existing drafts).map (·.1)).Perm
      ((kept existing).filter fun c => c.identity ∈ (wanted drafts).map CardDraft.identity) := by
    refine (List.perm_ext_iff_of_nodup hnodup (hkept.filter _)).mpr ?_
    intro c
    simp only [List.mem_map, List.mem_filter, decide_eq_true_eq]
    constructor
    · rintro ⟨p, hp, rfl⟩
      obtain ⟨hd, hc, hid⟩ := mem_matched.mp hp
      exact ⟨hc, p.2, hd, hid.symm⟩
    · rintro ⟨hc, d, hd, hid⟩
      exact ⟨(c, d), mem_matched.mpr ⟨hd, hc, hid.symm⟩, rfl⟩
  refine (hperm.append_right _).trans ?_
  have hgone : gone existing drafts = (kept existing).filter fun c =>
      !decide (c.identity ∈ (wanted drafts).map CardDraft.identity) :=
    List.filter_congr fun c _ => decide_not
  rw [hgone]
  exact List.filter_append_perm _ _

/-! ### The parts of the plan -/

section Plan

variable (existing drafts) (nt : NoteType) (ctx : ReconcileContext) (ids : IdSequence)

/-- A plan by its stages. -/
theorem reconcile_eq :
    (reconcile existing drafts nt ctx ids).1 = {
      noteId := ctx.noteId
      usn := ctx.usn
      toCreate := ((ids.take (fresh existing drafts).length).zip (fresh existing drafts)).map
        fun p => newCard nt ctx p.1 p.2
      toUpdate := ((matched existing drafts).filter fun p => !shows p.1 p.2).map
        fun p => refresh ctx p.1 p.2
      toDelete := ((surplus existing ++ gone existing drafts).map (·.id)).mergeSort
      unchanged := ((matched existing drafts).filter fun p => shows p.1 p.2).map
        fun p => p.1.id } := rfl

theorem toCreate_eq :
    (reconcile existing drafts nt ctx ids).1.toCreate =
      ((ids.take (fresh existing drafts).length).zip (fresh existing drafts)).map
        fun p => newCard nt ctx p.1 p.2 := rfl

theorem toUpdate_eq :
    (reconcile existing drafts nt ctx ids).1.toUpdate =
      ((matched existing drafts).filter fun p => !shows p.1 p.2).map
        fun p => refresh ctx p.1 p.2 := rfl

theorem unchanged_eq :
    (reconcile existing drafts nt ctx ids).1.unchanged =
      ((matched existing drafts).filter fun p => shows p.1 p.2).map fun p => p.1.id := rfl

/-- Deleted are the surplus cards and those whose drafts are gone. -/
theorem toDelete_perm :
    (reconcile existing drafts nt ctx ids).1.toDelete.Perm
      ((surplus existing ++ gone existing drafts).map (·.id)) := List.mergeSort_perm _ _

/-- A created card is a new card for a fresh draft. -/
theorem mem_toCreate {c : Card} (h : c ∈ (reconcile existing drafts nt ctx ids).1.toCreate) :
    ∃ id, ∃ d ∈ fresh existing drafts, c = newCard nt ctx id d := by
  rw [toCreate_eq] at h
  obtain ⟨p, hp, rfl⟩ := List.mem_map.mp h
  exact ⟨p.1, p.2, (List.of_mem_zip hp).2, rfl⟩

/-- An updated card is an old one, refreshed. -/
theorem mem_toUpdate {c : Card} (h : c ∈ (reconcile existing drafts nt ctx ids).1.toUpdate) :
    ∃ c₀ ∈ existing, ∃ d, c = refresh ctx c₀ d := by
  rw [toUpdate_eq] at h
  obtain ⟨p, hp, rfl⟩ := List.mem_map.mp h
  obtain ⟨-, hkept, -⟩ := mem_matched.mp (List.mem_filter.mp hp).1
  exact ⟨p.1, (mem_kept hkept).1, p.2, rfl⟩

@[simp] theorem length_take (n : Nat) : (ids.take n).length = n := by
  simp [IdSequence.take]

/-- Ids can be taken as long as there is a next one. -/
theorem take?_eq {ids : IdSequence} (bounded : ids.next ≤ lastId) (n : Nat) :
    ids.take? n = if ids.next + n ≤ lastId then some (ids.take n, ids.drop n) else none := by
  induction n generalizing ids with
  | zero =>
    rw [if_pos (by simpa using bounded)]
    simp [IdSequence.take?, IdSequence.take, IdSequence.drop]
  | succ n ih =>
    unfold IdSequence.take?
    by_cases hnext : ids.next < lastId
    · have hcast : ids.next + 1 + (n : Int) = ids.next + (n + 1 : Nat) := by omega
      have htake : ids.take (n + 1) = ids.next :: (⟨ids.next + 1⟩ : IdSequence).take n := by
        simp only [IdSequence.take, List.range_succ_eq_map, List.map_cons, List.map_map]
        refine congrArg₂ List.cons (by simp) (List.map_congr_left fun k _ => ?_)
        show ids.next + ((k + 1 : Nat) : Int) = ids.next + 1 + k
        omega
      have hdrop : ids.drop (n + 1) = (⟨ids.next + 1⟩ : IdSequence).drop n := by
        rw [IdSequence.drop, IdSequence.drop, hcast]
      rw [if_pos hnext, @ih ⟨ids.next + 1⟩ hnext, hcast, htake, hdrop]
      split <;> rfl
    · rw [if_neg hnext, if_neg (by omega)]

/-- Created cards take the ids of the sequence in turn. -/
theorem toCreate_ids :
    (reconcile existing drafts nt ctx ids).1.toCreate.map (·.id) =
      ids.take (fresh existing drafts).length := by
  rw [toCreate_eq, List.map_map]
  exact List.map_fst_zip (by simp)

/-- So theirs are not below the first one left. -/
theorem le_id_of_mem_toCreate {c : Card}
    (h : c ∈ (reconcile existing drafts nt ctx ids).1.toCreate) : ids.next ≤ c.id := by
  have hid := List.mem_map_of_mem (f := (·.id)) h
  rw [toCreate_ids, IdSequence.take] at hid
  obtain ⟨k, -, hk⟩ := List.mem_map.mp hid
  exact hk ▸ Int.le_add_of_nonneg_right (Int.natCast_nonneg k)

/-- New cards have ids above those of all stored cards. -/
theorem id_lt_of_mem_toCreate (above : ∀ c ∈ existing, c.id < ids.next) {c c' : Card}
    (hc : c ∈ existing) (hc' : c' ∈ (reconcile existing drafts nt ctx ids).1.toCreate) :
    c.id < c'.id :=
  Int.lt_of_lt_of_le (above c hc) (le_id_of_mem_toCreate existing drafts nt ctx ids hc')

/-- And they are distinct. -/
theorem nodup_toCreate_ids :
    ((reconcile existing drafts nt ctx ids).1.toCreate.map (·.id)).Nodup := by
  rw [toCreate_ids, IdSequence.take]
  refine List.Nodup.map_on ?_ List.nodup_range
  intro j _ k _ h
  exact Int.ofNat_inj.mp (Int.add_left_cancel h)

/-- Created cards show the fresh drafts. -/
theorem toCreate_drafts :
    (reconcile existing drafts nt ctx ids).1.toCreate.map Card.draft = fresh existing drafts := by
  rw [toCreate_eq, List.map_map]
  exact List.map_snd_zip (by simp)

theorem length_toCreate :
    (reconcile existing drafts nt ctx ids).1.toCreate.length = (fresh existing drafts).length := by
  rw [← toCreate_drafts existing drafts nt ctx ids, List.length_map]

/-- Updated are the matched cards that show something else. -/
theorem toUpdate_ids :
    (reconcile existing drafts nt ctx ids).1.toUpdate.map (·.id) =
      ((matched existing drafts).filter fun p => !shows p.1 p.2).map fun p => p.1.id := by
  rw [toUpdate_eq, List.map_map]
  rfl

/-- The cards with a draft are updated or left alone. -/
theorem matched_ids :
    ((reconcile existing drafts nt ctx ids).1.toUpdate.map (·.id) ++
      (reconcile existing drafts nt ctx ids).1.unchanged).Perm
      ((matched existing drafts).map fun p => p.1.id) := by
  rw [toUpdate_ids, unchanged_eq, ← List.map_append]
  exact (List.perm_append_comm.trans
    (List.filter_append_perm (fun p : Card × CardDraft => shows p.1 p.2) _)).map _

/-- Each stored card is updated, left alone or deleted. -/
theorem accounted :
    ((reconcile existing drafts nt ctx ids).1.toUpdate.map (·.id) ++
      (reconcile existing drafts nt ctx ids).1.unchanged ++
      (reconcile existing drafts nt ctx ids).1.toDelete).Perm (existing.map (·.id)) := by
  have hall : ((matched existing drafts).map (·.1) ++
      (surplus existing ++ gone existing drafts)).Perm existing := by
    refine (List.perm_append_comm.append_left _).trans ?_
    rw [← List.append_assoc]
    exact ((matched_append_gone existing drafts).append_right _).trans
      (kept_append_surplus existing)
  refine ((matched_ids existing drafts nt ctx ids).append
    (toDelete_perm existing drafts nt ctx ids)).trans ?_
  have := hall.map (·.id)
  rwa [List.map_append, List.map_map] at this

/-! ### The outcome of the plan -/

variable {existing} (distinct : (existing.map (·.id)).Nodup)

include distinct

/-- A card is matched with one draft only. -/
theorem eq_of_matched {p q : Card × CardDraft} (hp : p ∈ matched existing drafts)
    (hq : q ∈ matched existing drafts) (hid : p.1.id = q.1.id) : p = q := by
  obtain ⟨hp₂, hp₁, hpi⟩ := mem_matched.mp hp
  obtain ⟨hq₂, hq₁, hqi⟩ := mem_matched.mp hq
  have h₁ : p.1 = q.1 := List.inj_on_of_nodup_map distinct (mem_kept hp₁).1 (mem_kept hq₁).1 hid
  have h₂ : p.2 = q.2 := List.inj_on_of_nodup_map (nodup_identities_wanted drafts) hp₂ hq₂
    (by rw [← hpi, ← hqi, h₁])
  exact Prod.ext h₁ h₂

/-- No card is accounted for twice. -/
theorem nodup_accounted :
    ((reconcile existing drafts nt ctx ids).1.toUpdate.map (·.id) ++
      (reconcile existing drafts nt ctx ids).1.unchanged ++
      (reconcile existing drafts nt ctx ids).1.toDelete).Nodup :=
  (accounted existing drafts nt ctx ids).nodup_iff.mpr distinct

theorem nodup_toUpdate_ids :
    ((reconcile existing drafts nt ctx ids).1.toUpdate.map (·.id)).Nodup :=
  (List.nodup_append.mp (List.nodup_append.mp (nodup_accounted drafts nt ctx ids distinct)).1).1

/-- A matched card is not deleted. -/
theorem not_mem_toDelete {p : Card × CardDraft} (hp : p ∈ matched existing drafts) :
    p.1.id ∉ (reconcile existing drafts nt ctx ids).1.toDelete := by
  intro hmem
  have hleft : p.1.id ∈ (reconcile existing drafts nt ctx ids).1.toUpdate.map (·.id) ++
      (reconcile existing drafts nt ctx ids).1.unchanged :=
    (matched_ids existing drafts nt ctx ids).mem_iff.mpr (List.mem_map_of_mem hp)
  exact (List.nodup_append.mp (nodup_accounted drafts nt ctx ids distinct)).2.2 _ hleft _ hmem rfl

/-- The cards that are not deleted are those with a draft. -/
theorem mem_matched_iff_not_mem_toDelete {c : Card} (hc : c ∈ existing) :
    c.id ∉ (reconcile existing drafts nt ctx ids).1.toDelete ↔
      ∃ d, (c, d) ∈ matched existing drafts := by
  constructor
  · intro hnot
    -- a card that is not deleted is accounted for as updated or left alone
    have hid := (accounted existing drafts nt ctx ids).mem_iff.mpr
      (List.mem_map_of_mem (f := (·.id)) hc)
    rcases List.mem_append.mp hid with hid | hid
    · obtain ⟨p, hp, heq⟩ := List.mem_map.mp
        ((matched_ids existing drafts nt ctx ids).mem_iff.mp hid)
      have hcard : p.1 = c := List.inj_on_of_nodup_map distinct
        (mem_kept (mem_matched.mp hp).2.1).1 hc heq
      exact ⟨p.2, hcard ▸ hp⟩
    · exact absurd hid hnot
  · rintro ⟨d, hd⟩
    exact not_mem_toDelete drafts nt ctx ids distinct hd

/-- What is not deleted is matched. -/
theorem survivors_perm :
    (existing.filter (·.id ∉ (reconcile existing drafts nt ctx ids).1.toDelete)).Perm
      ((matched existing drafts).map (·.1)) := by
  have hleft : (existing.filter
      (·.id ∉ (reconcile existing drafts nt ctx ids).1.toDelete)).Nodup :=
    (List.Nodup.of_map _ distinct).filter _
  have hright := nodup_cards_matched existing drafts
  refine (List.perm_ext_iff_of_nodup hleft hright).mpr ?_
  intro c
  rw [List.mem_filter, decide_eq_true_eq, List.mem_map]
  constructor
  · rintro ⟨hc, hnot⟩
    obtain ⟨d, hd⟩ := (mem_matched_iff_not_mem_toDelete drafts nt ctx ids distinct hc).mp hnot
    exact ⟨(c, d), hd, rfl⟩
  · rintro ⟨p, hp, rfl⟩
    have hc := (mem_kept (mem_matched.mp hp).2.1).1
    exact ⟨hc, not_mem_toDelete drafts nt ctx ids distinct hp⟩

/-- What the plan makes of a matched card. -/
theorem getD_find?_toUpdate {p : Card × CardDraft} (hp : p ∈ matched existing drafts) :
    ((reconcile existing drafts nt ctx ids).1.toUpdate.find? (·.id = p.1.id)).getD p.1 =
      settle ctx p.1 p.2 := by
  have hnodup := nodup_toUpdate_ids drafts nt ctx ids distinct
  rw [settle]
  by_cases hshows : shows p.1 p.2 = true
  · rw [if_pos hshows]
    -- an update of this id would be one of this card, and the card is left alone
    have hnone :
        (reconcile existing drafts nt ctx ids).1.toUpdate.find? (·.id = p.1.id) = none := by
      refine Option.eq_none_iff_forall_ne_some.mpr ?_
      intro u hu
      obtain ⟨hmem, hid⟩ := (find?_key_eq_some_iff hnodup).mp hu
      rw [toUpdate_eq] at hmem
      obtain ⟨q, hq, rfl⟩ := List.mem_map.mp hmem
      obtain ⟨hq, hnot⟩ := List.mem_filter.mp hq
      rw [eq_of_matched drafts distinct hq hp hid, hshows] at hnot
      cases hnot
    rw [hnone]
    rfl
  · rw [if_neg hshows]
    have hsome : (reconcile existing drafts nt ctx ids).1.toUpdate.find? (·.id = p.1.id) =
        some (refresh ctx p.1 p.2) := by
      refine (find?_key_eq_some_iff hnodup).mpr ⟨?_, rfl⟩
      rw [toUpdate_eq]
      exact List.mem_map_of_mem (List.mem_filter.mpr ⟨hp, by simpa using hshows⟩)
    rw [hsome]
    rfl

/-- The cards after the plan: the settled ones and the new ones. -/
theorem outcome_perm :
    ((reconcile existing drafts nt ctx ids).1.outcome existing).Perm
      ((matched existing drafts).map (fun p => settle ctx p.1 p.2) ++
        (reconcile existing drafts nt ctx ids).1.toCreate) := by
  refine List.Perm.append_right _ ?_
  refine ((survivors_perm drafts nt ctx ids distinct).map _).trans ?_
  rw [List.map_map]
  exact List.Perm.of_eq (List.map_congr_left fun p hp =>
    getD_find?_toUpdate drafts nt ctx ids distinct hp)

omit distinct in
/-- A settled card shows its draft. -/
theorem draft_settle {c : Card} {d : CardDraft} (h : c.identity = d.identity) :
    (settle ctx c d).draft = d := by
  obtain ⟨hname, hordinal⟩ := CardIdentity.mk.inj h
  rw [settle]
  split
  · next hshows =>
    obtain ⟨hfront, hback⟩ := shows_iff.mp hshows
    rw [Card.draft, hname, hordinal, hfront, hback]
  · rw [refresh, Card.draft, hname, hordinal]

/-- The cards after the plan show the drafts that count, each once. -/
theorem outcome_drafts :
    (((reconcile existing drafts nt ctx ids).1.outcome existing).map Card.draft).Perm
      (wanted drafts) := by
  refine ((outcome_perm drafts nt ctx ids distinct).map Card.draft).trans ?_
  rw [List.map_append, toCreate_drafts, List.map_map]
  have hsettled : (matched existing drafts).map
      (Card.draft ∘ fun p : Card × CardDraft => settle ctx p.1 p.2) =
      (matched existing drafts).map (·.2) :=
    List.map_congr_left fun p hp => draft_settle ctx (mem_matched.mp hp).2.2
  rw [hsettled]
  exact matched_append_fresh existing drafts

/-- The outcome of a plan: the matched cards, settled, and the created ones. -/
theorem mem_outcome {c : Card} :
    c ∈ (reconcile existing drafts nt ctx ids).1.outcome existing ↔
      (∃ p ∈ matched existing drafts, c = settle ctx p.1 p.2) ∨
        c ∈ (reconcile existing drafts nt ctx ids).1.toCreate := by
  rw [(outcome_perm drafts nt ctx ids distinct).mem_iff, List.mem_append, List.mem_map]
  refine or_congr_left (exists_congr fun p => and_congr_right fun _ => eq_comm)

/-- Where no identity has two stored cards, a card of the outcome that has the identity of a stored
card is that card, but for its content and mark, and was not deleted. -/
theorem survivor_of_mem_outcome
    (single : ∀ c ∈ existing, ∀ c' ∈ existing, c.identity = c'.identity → c = c')
    {c c' : Card} (hc : c ∈ existing)
    (hc' : c' ∈ (reconcile existing drafts nt ctx ids).1.outcome existing)
    (hidentity : c'.identity = c.identity) :
    (∃ front back usn, c' = { c with front, back, usn }) ∧
      c.id ∉ (reconcile existing drafts nt ctx ids).1.toDelete := by
  rcases (mem_outcome drafts nt ctx ids distinct).mp hc' with ⟨p, hp, rfl⟩ | hnew
  · rw [identity_settle] at hidentity
    obtain rfl := single p.1 (mem_kept (mem_matched.mp hp).2.1).1 c hc hidentity
    exact ⟨settle_eq ctx p.1 p.2, not_mem_toDelete drafts nt ctx ids distinct hp⟩
  · obtain ⟨id, d, hd, rfl⟩ := mem_toCreate existing drafts nt ctx ids hnew
    exact absurd hidentity.symm ((mem_fresh.mp hd).2 c hc)

omit distinct in
/-- No card is new where each draft has a card of its identity. -/
theorem toCreate_eq_nil_iff (existing : List Card) :
    (reconcile existing drafts nt ctx ids).1.toCreate = [] ↔
      ∀ i ∈ drafts.map CardDraft.identity, i ∈ existing.map Card.identity := by
  rw [← List.length_eq_zero_iff, length_toCreate, List.length_eq_zero_iff,
    List.eq_nil_iff_forall_not_mem]
  constructor
  · intro hnone i hi
    obtain ⟨d, hd, rfl⟩ := List.mem_map.mp (mem_identities_wanted.mpr hi)
    by_contra hmissing
    refine hnone d (mem_fresh.mpr ⟨hd, fun c hc hid => hmissing ?_⟩)
    exact hid ▸ List.mem_map_of_mem hc
  · intro hall d hfresh
    obtain ⟨hd, hnone⟩ := mem_fresh.mp hfresh
    obtain ⟨c, hc, hid⟩ := List.mem_map.mp
      (hall d.identity (mem_identities_wanted.mp (List.mem_map_of_mem hd)))
    exact hnone c hc hid

omit distinct in
/-- No card goes where each card has a draft of its identity, and no identity has two cards. -/
theorem toDelete_eq_nil_iff (single : (existing.map Card.identity).Nodup) :
    (reconcile existing drafts nt ctx ids).1.toDelete = [] ↔
      ∀ i ∈ existing.map Card.identity, i ∈ drafts.map CardDraft.identity := by
  have hkept : ∀ c, c ∈ kept existing ↔ c ∈ existing := fun c => by
    have h := kept_append_surplus existing
    rw [surplus_eq_nil single, List.append_nil] at h
    exact h.mem_iff
  rw [← List.length_eq_zero_iff, (toDelete_perm existing drafts nt ctx ids).length_eq,
    surplus_eq_nil single, List.nil_append, List.length_map, List.length_eq_zero_iff, gone,
    List.filter_eq_nil_iff, List.forall_mem_map]
  simp only [hkept, mem_identities_wanted, decide_eq_true_eq, not_not]

omit distinct in
/-- No card changes where each card shows a draft that counts. -/
theorem toUpdate_eq_nil (shown : ∀ c ∈ existing, c.draft ∈ wanted drafts) :
    (reconcile existing drafts nt ctx ids).1.toUpdate = [] := by
  rw [toUpdate_eq, List.map_eq_nil_iff, List.filter_eq_nil_iff]
  intro p hp
  obtain ⟨hd, hc, hid⟩ := mem_matched.mp hp
  -- of the drafts that count, only the one that the card shows has its identity
  have hdraft : p.1.draft = p.2 :=
    List.inj_on_of_nodup_map (nodup_identities_wanted drafts) (shown p.1 (mem_kept hc).1) hd hid
  simp [← hdraft, shows, Card.draft]

omit distinct in
/-- Where the cards show the drafts that count, each once, nothing is left to do. -/
theorem isNoop_of_drafts (shown : (existing.map Card.draft).Perm (wanted drafts)) :
    (reconcile existing drafts nt ctx ids).1.isNoop = true := by
  have hidentities : existing.map Card.identity =
      (existing.map Card.draft).map CardDraft.identity := by
    rw [List.map_map]
    rfl
  have hsame : ∀ i, i ∈ existing.map Card.identity ↔ i ∈ drafts.map CardDraft.identity := by
    intro i
    rw [hidentities, (shown.map _).mem_iff, mem_identities_wanted]
  have hnodup : (existing.map Card.identity).Nodup := by
    rw [hidentities, (shown.map _).nodup_iff]
    exact nodup_identities_wanted drafts
  have hcreate := (toCreate_eq_nil_iff drafts nt ctx ids existing).mpr fun i hi => (hsame i).mpr hi
  have hdelete := (toDelete_eq_nil_iff drafts nt ctx ids hnodup).mpr fun i hi => (hsame i).mp hi
  have hupdate := toUpdate_eq_nil drafts nt ctx ids fun c hc =>
    shown.mem_iff.mp (List.mem_map_of_mem hc)
  exact (ReconcilePlan.isNoop_iff _).mpr ⟨hcreate, hupdate, hdelete⟩

/-- The stored card of lowest id of a wanted identity stays: as it is if it shows the first draft of
that identity, and otherwise as an update. -/
theorem survivor_of_lowest {c : Card} (hc : c ∈ existing)
    (lowest : ∀ c' ∈ existing, c'.identity = c.identity → c.id ≤ c'.id) {d : CardDraft}
    (hd : drafts.find? (·.identity = c.identity) = some d) :
    if c.front = d.front ∧ c.back = d.back then
      c.id ∈ (reconcile existing drafts nt ctx ids).1.unchanged ∧
        c ∈ (reconcile existing drafts nt ctx ids).1.outcome existing
    else
      refresh ctx c d ∈ (reconcile existing drafts nt ctx ids).1.toUpdate ∧
        refresh ctx c d ∈ (reconcile existing drafts nt ctx ids).1.outcome existing := by
  have hid : d.identity = c.identity := by simpa using List.find?_some hd
  have hmatched : (c, d) ∈ matched existing drafts :=
    mem_matched.mpr ⟨mem_wanted.mpr (hid ▸ hd), mem_kept_of_lowest distinct hc lowest, hid.symm⟩
  have hsettled := (mem_outcome drafts nt ctx ids distinct).mpr (Or.inl ⟨_, hmatched, rfl⟩)
  rw [settle] at hsettled
  by_cases hshows : shows c d = true
  · rw [if_pos (shows_iff.mp hshows)]
    rw [if_pos hshows] at hsettled
    refine ⟨?_, hsettled⟩
    rw [unchanged_eq]
    exact List.mem_map_of_mem (List.mem_filter.mpr ⟨hmatched, hshows⟩)
  · rw [if_neg (mt shows_iff.mpr hshows)]
    rw [if_neg hshows] at hsettled
    refine ⟨?_, hsettled⟩
    rw [toUpdate_eq]
    exact List.mem_map_of_mem (List.mem_filter.mpr ⟨hmatched, by simpa using hshows⟩)

/-- No two cards of the outcome have the same identity. -/
theorem nodup_identities_outcome :
    (((reconcile existing drafts nt ctx ids).1.outcome existing).map Card.identity).Nodup := by
  have h := ((outcome_drafts drafts nt ctx ids distinct).map
    CardDraft.identity).nodup_iff.mpr (nodup_identities_wanted drafts)
  rwa [List.map_map] at h

/-- No two cards of the outcome have the same id. -/
theorem nodup_ids_outcome (above : ∀ c ∈ existing, c.id < ids.next) :
    (((reconcile existing drafts nt ctx ids).1.outcome existing).map (·.id)).Nodup := by
  refine ((outcome_perm drafts nt ctx ids distinct).map (·.id)).nodup_iff.mpr ?_
  rw [List.map_append, List.map_map]
  have hsettled : (matched existing drafts).map
      ((·.id) ∘ fun p : Card × CardDraft => settle ctx p.1 p.2) =
      ((matched existing drafts).map (·.1)).map (·.id) := by
    rw [List.map_map]
    exact List.map_congr_left fun p _ => id_settle ctx p.1 p.2
  rw [hsettled]
  refine List.nodup_append.mpr ⟨?_, ?_, ?_⟩
  · refine (survivors_perm drafts nt ctx ids distinct).map (·.id)
      |>.nodup_iff.mp ?_
    exact distinct.sublist (List.filter_sublist.map _)
  · exact nodup_toCreate_ids existing drafts nt ctx ids
  · intro id hold new hnew heq
    obtain ⟨c, hc, rfl⟩ := List.mem_map.mp hold
    obtain ⟨p, hp, rfl⟩ := List.mem_map.mp hc
    obtain ⟨c', hc', rfl⟩ := List.mem_map.mp hnew
    have hstored := (mem_kept (mem_matched.mp hp).2.1).1
    exact Int.ne_of_lt (id_lt_of_mem_toCreate existing drafts nt ctx ids above hstored hc') heq

/-- The written cards have different ids. -/
theorem nodup_written (above : ∀ c ∈ existing, c.id < ids.next) :
    (((reconcile existing drafts nt ctx ids).1.toCreate ++
      (reconcile existing drafts nt ctx ids).1.toUpdate).map (·.id)).Nodup := by
  rw [List.map_append]
  refine List.nodup_append.mpr ⟨nodup_toCreate_ids existing drafts nt ctx ids,
    nodup_toUpdate_ids drafts nt ctx ids distinct, ?_⟩
  intro new hnew id hid heq
  obtain ⟨c', hc', rfl⟩ := List.mem_map.mp hnew
  obtain ⟨c, hc, rfl⟩ := List.mem_map.mp ((accounted existing drafts nt ctx ids).mem_iff.mp
    (List.mem_append_left _ (List.mem_append_left _ hid)))
  exact Int.ne_of_gt (id_lt_of_mem_toCreate existing drafts nt ctx ids above hc hc') heq

end Plan

end Reconcile

/-! ## Exactness -/

/-- All that a plan for a note has to be, given the cards that the note has, its drafts, its type,
and the ids for new cards of which `rest` are left over. -/
structure ReconcilePlan.Exact (existing : List Card) (drafts : List CardDraft) (nt : NoteType)
    (ctx : ReconcileContext) (ids rest : IdSequence) (plan : ReconcilePlan) : Prop where
  /-- Each stored card is updated, left alone or deleted, only one of these and only once. -/
  accounted : (plan.toUpdate.map (·.id) ++ plan.unchanged ++ plan.toDelete).Perm
    (existing.map (·.id))
  /-- No identity has two cards afterwards, and no id either. -/
  oneEach : ((plan.outcome existing).map Card.identity).Nodup ∧
    ((plan.outcome existing).map (·.id)).Nodup
  /-- The identities of the cards are afterwards those of the drafts. -/
  identities : ∀ i, i ∈ (plan.outcome existing).map Card.identity ↔
    i ∈ drafts.map CardDraft.identity
  /-- Each card shows the first draft of its identity. -/
  content : ∀ c ∈ plan.outcome existing, ∃ d, drafts.find? (·.identity = c.identity) = some d ∧
    c.front = d.front ∧ c.back = d.back
  /-- Of the stored cards of a wanted identity the one of lowest id stays. With new content it is an
  update with a new mark and is otherwise what it was; without, it is left alone. -/
  survivor : ∀ c ∈ existing, (∀ c' ∈ existing, c'.identity = c.identity → c.id ≤ c'.id) →
    ∀ d, drafts.find? (·.identity = c.identity) = some d →
      if c.front = d.front ∧ c.back = d.back then
        c.id ∈ plan.unchanged ∧ c ∈ plan.outcome existing
      else
        { c with front := d.front, back := d.back, usn := ctx.usn } ∈ plan.toUpdate ∧
          { c with front := d.front, back := d.back, usn := ctx.usn } ∈ plan.outcome existing
  /-- New cards have consecutive ids from the next one on. -/
  newIds : plan.toCreate.map (·.id) =
    (List.range plan.toCreate.length).map fun (k : Nat) => ids.next + k
  /-- The ids left over come right after those. -/
  restIds : rest.next = ids.next + plan.toCreate.length
  /-- A new card is one of the note, for an identity without a card. It lies in the deck that its
  template names, if there is one of that name, or else in the default deck. -/
  newCards : ∀ c ∈ plan.toCreate, c.noteId = ctx.noteId ∧
    (∀ c' ∈ existing, c'.identity ≠ c.identity) ∧
    c.deckId = (((nt.template? c.templateName).bind (·.deckName?)).bind ctx.decks.get?).getD
      ctx.defaultDeck

open Reconcile in
/-- Where the stored cards have different ids, all below the new ones, the plan of `reconcile` is all that
it has to be. -/
theorem exact_reconcile (existing : List Card) (drafts : List CardDraft) (nt : NoteType)
    (ctx : ReconcileContext) (ids : IdSequence) (distinct : (existing.map (·.id)).Nodup)
    (above : ∀ c ∈ existing, c.id < ids.next) :
    ReconcilePlan.Exact existing drafts nt ctx ids (reconcile existing drafts nt ctx ids).2
      (reconcile existing drafts nt ctx ids).1 where
  accounted := accounted existing drafts nt ctx ids
  oneEach := ⟨nodup_identities_outcome drafts nt ctx ids distinct,
    nodup_ids_outcome drafts nt ctx ids distinct above⟩
  identities i := by
    rw [← mem_identities_wanted,
      ← ((outcome_drafts drafts nt ctx ids distinct).map
        CardDraft.identity).mem_iff, List.map_map]
    rfl
  content c hc := by
    have hd : c.draft ∈ wanted drafts :=
      (outcome_drafts drafts nt ctx ids distinct).mem_iff.mp (List.mem_map_of_mem hc)
    exact ⟨c.draft, mem_wanted.mp hd, rfl, rfl⟩
  survivor _ hc lowest _ hd := survivor_of_lowest drafts nt ctx ids distinct hc lowest hd
  newIds := by
    rw [toCreate_ids, length_toCreate]
    rfl
  restIds := by
    rw [length_toCreate]
    rfl
  newCards c hc := by
    obtain ⟨id, d, hd, rfl⟩ := mem_toCreate existing drafts nt ctx ids hc
    refine ⟨rfl, (mem_fresh.mp hd).2, ?_⟩
    show deckFor nt ctx d.templateName =
      (((nt.template? d.templateName).bind (·.deckName?)).bind ctx.decks.get?).getD ctx.defaultDeck
    rw [deckFor]
    cases (nt.template? d.templateName).bind (·.deckName?) <;> rfl

/-- The identities of drafts that no stored card has, each once. -/
def newIdentities (existing : List Card) (drafts : List CardDraft) : List CardIdentity :=
  (drafts.map CardDraft.identity).dedup.filter (· ∉ existing.map Card.identity)

open Reconcile in
/-- There is a new card for each of them. -/
theorem length_newIdentities (existing : List Card) (drafts : List CardDraft) :
    (newIdentities existing drafts).length = (fresh existing drafts).length := by
  have hnodup : ((fresh existing drafts).map CardDraft.identity).Nodup :=
    (nodup_identities_wanted drafts).sublist (List.filter_sublist.map _)
  have hperm : (newIdentities existing drafts).Perm ((fresh existing drafts).map CardDraft.identity) := by
    refine (List.perm_ext_iff_of_nodup ((List.nodup_dedup _).filter _) hnodup).mpr fun i => ?_
    rw [List.mem_filter, List.mem_dedup, ← mem_identities_wanted, decide_eq_true_eq]
    simp only [List.mem_map, mem_fresh]
    constructor
    · rintro ⟨⟨d, hd, rfl⟩, hnew⟩
      exact ⟨d, ⟨hd, fun c hc heq => hnew ⟨c, hc, heq⟩⟩, rfl⟩
    · rintro ⟨d, ⟨hd, hnew⟩, rfl⟩
      exact ⟨⟨d, hd, rfl⟩, fun ⟨c, hc, heq⟩ => hnew c hc heq⟩
  rw [hperm.length_eq, List.length_map]

/-- **Fitting is exact**: where the stored cards have different ids, all below the new ones, and there
are ids for one new card of each new identity, with a next one after them, the plan is all that it has to
be. Where the ids end before, there is none. -/
theorem reconcile_exact (existing : List Card) (drafts : List CardDraft) (nt : NoteType)
    (ctx : ReconcileContext) (ids : IdSequence) (bounded : ids.next ≤ lastId)
    (distinct : (existing.map (·.id)).Nodup) (above : ∀ c ∈ existing, c.id < ids.next) :
    (ids.next + (newIdentities existing drafts).length ≤ lastId →
      ∃ plan rest, reconcile? existing drafts nt ctx ids = some (plan, rest) ∧
        plan.Exact existing drafts nt ctx ids rest) ∧
    (lastId < ids.next + (newIdentities existing drafts).length →
      reconcile? existing drafts nt ctx ids = none) := by
  unfold reconcile?
  dsimp only
  rw [Reconcile.length_toCreate, Reconcile.take?_eq bounded, length_newIdentities]
  constructor
  · intro enough
    rw [if_pos enough]
    exact ⟨_, _, rfl, exact_reconcile existing drafts nt ctx ids distinct above⟩
  · intro tooFew
    rw [if_neg (Int.not_le.mpr tooFew)]
    rfl

/-- Two cards of one identity, a second card with old content, a card of an identity that has gone,
and two drafts of one identity beside a new one. There is a plan with a next id left, and none without. -/
theorem reconcile_exact_repeated :
    let card (id : CardId) (ordinal : UInt32) (front : String) : Card :=
      { id, noteId := 1, deckId := 3, templateName := "Card", ordinal, front, back := "B",
        scheduling := Sm2.newCard {} ⟨0, 0⟩, usn := 1 }
    let existing := [card 7 0 "F", card 4 0 "F", card 5 1 "old", card 6 2 "F"]
    let drafts : List CardDraft :=
      [⟨"Card", 0, "F", "B"⟩, ⟨"Card", 1, "new", "B"⟩, ⟨"Card", 0, "X", "B"⟩, ⟨"Card", 9, "F", "B"⟩]
    let ctx : ReconcileContext :=
      { noteId := 1, defaultDeck := 3, usn := 2, now := ⟨0, 0⟩, scheduler := {}, decks := .empty }
    (∃ plan rest, reconcile? existing drafts NoteType.basic ctx ⟨8⟩ = some (plan, rest) ∧
        plan.Exact existing drafts NoteType.basic ctx ⟨8⟩ rest) ∧
      reconcile? existing drafts NoteType.basic ctx ⟨lastId⟩ = none := by
  intro card existing drafts ctx
  have distinct : (existing.map (·.id)).Nodup := by decide
  obtain ⟨hplan, -⟩ := reconcile_exact existing drafts NoteType.basic ctx ⟨8⟩ (by decide) distinct
    (by decide +kernel)
  obtain ⟨-, hnone⟩ := reconcile_exact existing drafts NoteType.basic ctx ⟨lastId⟩ (Int.le_refl _)
    distinct (by decide +kernel)
  exact ⟨hplan (by decide +kernel), hnone (by decide +kernel)⟩

end Flashcard
