import Flashcard.Proofs.Reconcile
import Flashcard.Proofs.SortedMap
import Flashcard.Store.Memory

/-!
# The cards of a store in memory

What the store in memory keeps of the cards and reviews of a note, and what carrying out a plan does
to them.

- `Memory.Holds`, `Memory.cardsOf`, `Memory.reviewsOf`: what is kept.
- `Memory.Keyed`: cards are kept under their own ids.
- `Memory.IsFit`: the plans that fit the cards of a note to drafts.
- `Memory.holds_writePlan`: a fitting plan leaves the cards of its outcome, and those of all other
  notes.
- `Memory.SameNote`: what two stores agree on about a note.
-/

namespace Flashcard

namespace Memory

/-! ## What is kept -/

/-- Whether a card is kept, just as it is. -/
def Holds (m : Memory) (c : Card) : Prop := m.cards.get? c.id = some c

/-- The cards of a note, by id. -/
def cardsOf (m : Memory) (n : NoteId) : List Card := m.cards.values.filter (·.noteId == n)

/-- The reviews of a card, the oldest first. -/
def reviewsOf (m : Memory) (id : CardId) : List Review :=
  (m.reviews.filter (·.1 == id)).map (·.2)

/-- Cards are kept under their own ids. -/
def Keyed (m : Memory) : Prop := ∀ id c, m.cards.get? id = some c → c.id = id

variable {m m' : Memory} {n : NoteId}

/-- The cards of a note that is not made to fail are read. -/
theorem cardsOfNote_eq (h : m.checkNote n = .ok ()) : cardsOfNote n m = .ok (m.cardsOf n) := by
  rw [cardsOfNote, h]
  rfl

/-- A card that is found is held. -/
theorem holds_of_get? (keyed : m.Keyed) {id : CardId} {c : Card} (h : m.cards.get? id = some c) :
    m.Holds c := by
  obtain rfl := keyed id c h
  exact h

/-- Two kept cards of one id are the same. -/
theorem Holds.eq_of_id {c c' : Card} (h : m.Holds c) (h' : m.Holds c') (hid : c.id = c'.id) :
    c = c' := by
  rw [Holds, hid] at h
  exact Option.some.inj (h.symm.trans h')

/-- The cards of a note are the cards held that have its id. -/
theorem mem_cardsOf (keyed : m.Keyed) {c : Card} :
    c ∈ m.cardsOf n ↔ m.Holds c ∧ c.noteId = n := by
  rw [cardsOf, List.mem_filter, SortedMap.mem_values_iff, beq_iff_eq]
  refine and_congr_left fun _ => ⟨?_, fun h => ⟨c.id, h⟩⟩
  rintro ⟨id, h⟩
  exact holds_of_get? keyed h

/-- The cards of a note come in the order of their ids. -/
theorem cardsOf_sorted (keyed : m.Keyed) (n : NoteId) : (m.cardsOf n).Pairwise (·.id < ·.id) := by
  have hvalues : m.cards.values.Pairwise (·.id < ·.id) := by
    have hkeys : (m.cards.values.map (·.id)).Pairwise (· < ·) := by
      rw [SortedMap.map_values_eq_keys keyed]
      exact List.pairwise_map.mpr (m.cards.ascending.imp Int.compare_eq_lt.mp)
    exact List.pairwise_map.mp hkeys
  exact hvalues.filter _

theorem nodup_ids_cardsOf (keyed : m.Keyed) (n : NoteId) : ((m.cardsOf n).map (·.id)).Nodup :=
  List.pairwise_map.mpr ((cardsOf_sorted keyed n).imp Int.ne_of_lt)

/-- The cards of a note are known once it is known which ones are kept. -/
theorem cardsOf_congr (keyed : m.Keyed) (keyed' : m'.Keyed)
    (h : ∀ c, c.noteId = n → (m'.Holds c ↔ m.Holds c)) : m'.cardsOf n = m.cardsOf n := by
  have hperm : (m'.cardsOf n).Perm (m.cardsOf n) := by
    refine (List.perm_ext_iff_of_nodup (List.Nodup.of_map _ (nodup_ids_cardsOf keyed' n))
      (List.Nodup.of_map _ (nodup_ids_cardsOf keyed n))).mpr ?_
    intro c
    rw [mem_cardsOf keyed', mem_cardsOf keyed]
    exact and_congr_left fun hn => h c hn
  -- both lists are sorted by id, so one permutes the other only if they are equal
  refine hperm.eq_of_pairwise ?_ (cardsOf_sorted keyed' n)
    (cardsOf_sorted keyed n)
  intro a b _ _ hab hba
  exact absurd hba (Int.not_lt.mpr (Int.le_of_lt hab))

/-! ## Writing cards -/

theorem foldl_putCard (cards : List Card) (m : Memory) :
    cards.foldl putCard m =
      { m with cards := cards.foldl (fun kept c => kept.insert c.id c) m.cards } := by
  induction cards generalizing m with
  | nil => rfl
  | cons c rest ih => exact ih (m.putCard c)

/-- Writing cards takes none away. -/
theorem contains_foldl_putCard {cards : List Card} {id : CardId}
    (h : m.cards.contains id = true) : (cards.foldl putCard m).cards.contains id = true := by
  induction cards generalizing m with
  | nil => exact h
  | cons c rest ih => exact ih (SortedMap.contains_insert.mpr (Or.inr h))

theorem foldl_dropCard (ids : List CardId) (m : Memory) :
    ids.foldl dropCard m =
      { m with
        cards := ids.foldl SortedMap.erase m.cards
        reviews := m.reviews.filter (·.1 ∉ ids) } := by
  induction ids generalizing m with
  | nil => simp
  | cons id rest ih =>
    refine (ih (m.dropCard id)).trans ?_
    rw [dropCard, List.filter_filter]
    congr 1
    refine List.filter_congr ?_
    intro e _
    simp [Bool.and_comm]

/-- What is left of the cards when a plan is carried out. -/
theorem writePlan_eq (m : Memory) (plan : ReconcilePlan) :
    m.writePlan plan =
      { m with
        cards := plan.toDelete.foldl SortedMap.erase
          ((plan.toCreate ++ plan.toUpdate).foldl (fun kept c => kept.insert c.id c) m.cards)
        reviews := m.reviews.filter (·.1 ∉ plan.toDelete)
        usn := if plan.isNoop then m.usn else max m.usn plan.usn } := by
  simp only [writePlan, foldl_putCard, foldl_dropCard]
  cases plan.isNoop <;> rfl

/-- A plan that has nothing to do leaves the store as it is, mark included. -/
theorem writePlan_of_isNoop {plan : ReconcilePlan} (h : plan.isNoop = true) (m : Memory) :
    m.writePlan plan = m := by
  obtain ⟨hcreate, hupdate, hdelete⟩ := plan.isNoop_iff.mp h
  unfold writePlan
  rw [hcreate, hupdate, hdelete, if_pos h]
  rfl

/-- The store with a note and the cards of a plan for it written. -/
def writeNote (m : Memory) (note : Note) (plan : ReconcilePlan) : Memory :=
  ((m.putNote note).writePlan plan).raiseUsn note.usn

section Fields

variable (m : Memory) (plan : ReconcilePlan)

@[simp] theorem noteTypes_writePlan : (m.writePlan plan).noteTypes = m.noteTypes := by
  rw [writePlan_eq]

@[simp] theorem notes_writePlan : (m.writePlan plan).notes = m.notes := by rw [writePlan_eq]

@[simp] theorem decks_writePlan : (m.writePlan plan).decks = m.decks := by rw [writePlan_eq]

@[simp] theorem failing_writePlan : (m.writePlan plan).failing = m.failing := by rw [writePlan_eq]

/-- A plan drops the records of the cards that it deletes, and of no others. -/
theorem reviews_writePlan :
    (m.writePlan plan).reviews = m.reviews.filter (·.1 ∉ plan.toDelete) := by rw [writePlan_eq]

end Fields

/-- After cards are put, look-ups find the card that was put, or else what was there. -/
theorem get?_foldl_insert {cards : List Card} (distinct : (cards.map (·.id)).Nodup)
    (kept : SortedMap CardId Card) (id : CardId) :
    (cards.foldl (fun kept c => kept.insert c.id c) kept).get? id =
      (cards.find? (·.id = id)).or (kept.get? id) := by
  rw [SortedMap.get?_foldl_insert distinct, Option.map_id']

/-- After cards are dropped, look-ups do not find them, and find all others. -/
theorem get?_foldl_erase (ids : List CardId) (kept : SortedMap CardId Card) (id : CardId) :
    (ids.foldl SortedMap.erase kept).get? id = if id ∈ ids then none else kept.get? id := by
  induction ids generalizing kept with
  | nil => rfl
  | cons head rest ih =>
    rw [List.foldl_cons, ih, SortedMap.get?_erase]
    by_cases hrest : id ∈ rest
    · simp [hrest]
    · simp [hrest]

/-- What is kept under an id once a plan is carried out, whose written cards have different ids. -/
theorem get?_writePlan {plan : ReconcilePlan}
    (distinct : ((plan.toCreate ++ plan.toUpdate).map (·.id)).Nodup) (m : Memory) (id : CardId) :
    (m.writePlan plan).cards.get? id =
      if id ∈ plan.toDelete then none
      else ((plan.toCreate ++ plan.toUpdate).find? (·.id = id)).or (m.cards.get? id) := by
  rw [writePlan_eq]
  rw [get?_foldl_erase, get?_foldl_insert distinct]

/-- To write a note with its plan does to the cards what the plan does. -/
theorem cards_writeNote (note : Note) (plan : ReconcilePlan) (m : Memory) :
    (m.writeNote note plan).cards = (m.writePlan plan).cards ∧
      (m.writeNote note plan).reviews = (m.writePlan plan).reviews := by
  rw [writeNote, writePlan_eq, writePlan_eq]
  exact ⟨rfl, rfl⟩

section Fields

variable (note : Note) (plan : ReconcilePlan) (m : Memory)

@[simp] theorem noteTypes_writeNote : (m.writeNote note plan).noteTypes = m.noteTypes :=
  noteTypes_writePlan (m.putNote note) plan

@[simp] theorem decks_writeNote : (m.writeNote note plan).decks = m.decks :=
  decks_writePlan (m.putNote note) plan

@[simp] theorem failing_writeNote : (m.writeNote note plan).failing = m.failing :=
  failing_writePlan (m.putNote note) plan

/-- To write a note with its plan stores the note. -/
theorem notes_writeNote :
    (m.writeNote note plan).notes = m.notes.insert note.id (.readable note) :=
  notes_writePlan (m.putNote note) plan

end Fields

/-! ## Fitting plans -/

/-- The plans that fit the cards of a note to drafts: those of `reconcile` for the cards that the
note has, with ids that are not in use. -/
def IsFit (m : Memory) (n : NoteId) (drafts : List CardDraft) (plan : ReconcilePlan) : Prop :=
  ∃ nt ctx, ctx.noteId = n ∧
    plan = (reconcile (m.cardsOf n) drafts nt ctx (.startingAt (Store.nextId m.cards))).1

section Fit

variable {drafts : List CardDraft} {plan : ReconcilePlan}

/-- The ids of kept cards are below those of new cards. -/
theorem Holds.lt_startingAt {c : Card} (h : m.Holds c) :
    c.id < (IdSequence.startingAt (Store.nextId m.cards)).next :=
  Int.lt_of_lt_of_le (Store.lt_nextId_of_get? h) (Int.le_max_left ..)

/-- The cards of a note have ids below the next one. -/
theorem cardsOf_below (keyed : m.Keyed) (n : NoteId) :
    ∀ c ∈ m.cardsOf n, c.id < (IdSequence.startingAt (Store.nextId m.cards)).next :=
  fun _ hc => ((mem_cardsOf keyed).mp hc).1.lt_startingAt

/-- New cards have ids that are not in use. -/
theorem IsFit.toCreate_fresh (fit : m.IsFit n drafts plan) {c c' : Card} (hc : c ∈ plan.toCreate)
    (hc' : m.Holds c') : c'.id < c.id := by
  obtain ⟨nt, ctx, rfl, rfl⟩ := fit
  exact Int.lt_of_lt_of_le hc'.lt_startingAt (Reconcile.le_id_of_mem_toCreate _ _ _ _ _ hc)

/-- A fitting plan only deletes and changes cards of the note. -/
theorem IsFit.mem_cardsOf_of_touched (fit : m.IsFit n drafts plan) {id : CardId}
    (h : id ∈ plan.toDelete ∨ id ∈ plan.toUpdate.map (·.id)) : ∃ c ∈ m.cardsOf n, c.id = id := by
  obtain ⟨nt, ctx, rfl, rfl⟩ := fit
  have hperm := Reconcile.accounted (m.cardsOf ctx.noteId) drafts nt ctx
    (.startingAt (Store.nextId m.cards))
  refine List.mem_map.mp (hperm.mem_iff.mp ?_)
  rw [List.mem_append, List.mem_append]
  exact h.elim Or.inr fun h => Or.inl (Or.inl h)

/-- A fitting plan writes no card twice. -/
theorem IsFit.nodup_written (keyed : m.Keyed) (fit : m.IsFit n drafts plan) :
    ((plan.toCreate ++ plan.toUpdate).map (·.id)).Nodup := by
  obtain ⟨nt, ctx, rfl, rfl⟩ := fit
  exact Reconcile.nodup_written _ _ _ _ (nodup_ids_cardsOf keyed _) (cardsOf_below keyed _)

/-- The cards of a note have distinct ids after a fitting plan. -/
theorem IsFit.nodup_ids_outcome (keyed : m.Keyed) (fit : m.IsFit n drafts plan) :
    ((plan.outcome (m.cardsOf n)).map (·.id)).Nodup := by
  obtain ⟨nt, ctx, rfl, rfl⟩ := fit
  exact Reconcile.nodup_ids_outcome _ _ _ _ (nodup_ids_cardsOf keyed _) (cardsOf_below keyed _)

/-- No new card has the id of a card that is kept. -/
theorem IsFit.find?_toCreate (fit : m.IsFit n drafts plan) {c : Card} (h : m.Holds c) :
    plan.toCreate.find? (·.id = c.id) = none := by
  refine List.find?_eq_none.mpr fun c' hc' heq => ?_
  exact Int.ne_of_gt (fit.toCreate_fresh hc' h) (of_decide_eq_true heq)

/-- A fitting plan does not touch the cards of other notes. -/
theorem IsFit.untouched (keyed : m.Keyed) (fit : m.IsFit n drafts plan) {c : Card} (h : m.Holds c)
    (hn : c.noteId ≠ n) :
    c.id ∉ plan.toDelete ∧ plan.toUpdate.find? (·.id = c.id) = none := by
  -- what a plan touches is a card of its note, and ids tell cards apart
  have hother : ¬ (c.id ∈ plan.toDelete ∨ c.id ∈ plan.toUpdate.map (·.id)) := by
    intro htouched
    obtain ⟨c₀, hc₀, hid⟩ := fit.mem_cardsOf_of_touched htouched
    obtain ⟨hholds, hn₀⟩ := (mem_cardsOf keyed).mp hc₀
    exact hn (hholds.eq_of_id h hid ▸ hn₀)
  refine ⟨fun hdel => hother (Or.inl hdel), List.find?_eq_none.mpr fun u hu heq => ?_⟩
  exact hother (Or.inr (List.mem_map.mpr ⟨u, hu, of_decide_eq_true heq⟩))

/-- A fitting plan deletes none of its new cards. -/
theorem IsFit.not_mem_toDelete (keyed : m.Keyed) (fit : m.IsFit n drafts plan) {c : Card}
    (h : c ∈ plan.toCreate) : c.id ∉ plan.toDelete := by
  intro hdel
  obtain ⟨c₀, hc₀, hid⟩ := fit.mem_cardsOf_of_touched (Or.inl hdel)
  exact Int.ne_of_lt (fit.toCreate_fresh h ((mem_cardsOf keyed).mp hc₀).1) hid

/-- A card that a fitting plan leaves is one of another note or one of its outcome. -/
theorem IsFit.of_holds_writePlan (keyed : m.Keyed) (fit : m.IsFit n drafts plan) {c : Card}
    (h : (m.writePlan plan).Holds c) :
    (c.noteId ≠ n ∧ m.Holds c) ∨ c ∈ plan.outcome (m.cardsOf n) := by
  rw [Holds, get?_writePlan (fit.nodup_written keyed), List.find?_append] at h
  rw [ReconcilePlan.mem_outcome_iff]
  by_cases hdel : c.id ∈ plan.toDelete
  · rw [if_pos hdel] at h
    cases h
  -- the card was written last as a new one, as a changed one, or not at all
  rw [if_neg hdel, Option.or_assoc] at h
  cases hnew : plan.toCreate.find? (·.id = c.id) with
  | some c' =>
    rw [hnew] at h
    cases h
    exact Or.inr (Or.inr (List.mem_of_find?_eq_some hnew))
  | none =>
    rw [hnew, Option.none_or] at h
    cases hupdate : plan.toUpdate.find? (·.id = c.id) with
    | some c' =>
      rw [hupdate] at h
      cases h
      obtain ⟨c₀, hc₀, hid⟩ := fit.mem_cardsOf_of_touched
        (Or.inr (List.mem_map_of_mem (List.mem_of_find?_eq_some hupdate)))
      refine Or.inr (Or.inl ⟨c₀, hc₀, hid ▸ hdel, ?_⟩)
      rw [hid, hupdate]
      rfl
    | none =>
      rw [hupdate, Option.none_or] at h
      by_cases hn : c.noteId = n
      · refine Or.inr (Or.inl ⟨c, (mem_cardsOf keyed).mpr ⟨h, hn⟩, hdel, ?_⟩)
        rw [hupdate]
        rfl
      · exact Or.inl ⟨hn, h⟩

/-- **A fitting plan leaves the cards of its outcome**, and the cards of all other notes as they
were. -/
theorem holds_writePlan (keyed : m.Keyed) (fit : m.IsFit n drafts plan) {c : Card} :
    (m.writePlan plan).Holds c ↔
      (c.noteId ≠ n ∧ m.Holds c) ∨ c ∈ plan.outcome (m.cardsOf n) := by
  refine ⟨fit.of_holds_writePlan keyed, ?_⟩
  intro h
  have distinct := fit.nodup_written keyed
  rw [ReconcilePlan.mem_outcome_iff] at h
  rw [Holds, get?_writePlan distinct, List.find?_append]
  -- a card of another note, a card that was not deleted, or a new one
  rcases h with ⟨hn, h⟩ | ⟨c₀, hc₀, hdel, rfl⟩ | h
  · obtain ⟨hdel, hupdate⟩ := fit.untouched keyed h hn
    rw [if_neg hdel, fit.find?_toCreate h, hupdate]
    exact h
  · have hholds := ((mem_cardsOf keyed).mp hc₀).1
    rw [plan.id_updated, if_neg hdel, fit.find?_toCreate hholds, Option.none_or]
    cases plan.toUpdate.find? (·.id = c₀.id) with
    | none => exact hholds
    | some u => rfl
  · have hnew : plan.toCreate.find? (·.id = c.id) = some c := by
      rw [List.map_append] at distinct
      exact (find?_key_eq_some_iff (List.nodup_append.mp distinct).1).mpr ⟨h, rfl⟩
    rw [if_neg (fit.not_mem_toDelete keyed h), hnew]
    rfl

/-- The outcome of a fitting plan are cards of its note. -/
theorem IsFit.noteId_of_mem_outcome (keyed : m.Keyed) (fit : m.IsFit n drafts plan) {c : Card}
    (h : c ∈ plan.outcome (m.cardsOf n)) : c.noteId = n := by
  obtain ⟨nt, ctx, rfl, rfl⟩ := fit
  rcases (Reconcile.mem_outcome drafts nt ctx _ (nodup_ids_cardsOf keyed _)).mp h with h | h
  · obtain ⟨p, hp, rfl⟩ := h
    rw [Reconcile.noteId_settle]
    exact ((mem_cardsOf keyed).mp (Reconcile.mem_kept (Reconcile.mem_matched.mp hp).2.1).1).2
  · obtain ⟨id, d, -, rfl⟩ := Reconcile.mem_toCreate _ _ _ _ _ h
    rfl

/-- The outcome has one card of each identity. -/
theorem IsFit.eq_of_identity (keyed : m.Keyed) (fit : m.IsFit n drafts plan) {c c' : Card}
    (h : c ∈ plan.outcome (m.cardsOf n)) (h' : c' ∈ plan.outcome (m.cardsOf n))
    (hidentity : c.identity = c'.identity) : c = c' := by
  obtain ⟨nt, ctx, rfl, rfl⟩ := fit
  exact List.inj_on_of_nodup_map
    (Reconcile.nodup_identities_outcome _ _ _ _ (nodup_ids_cardsOf keyed _)) h h' hidentity

/-- A card that a fitting plan deletes or changes is there. -/
theorem IsFit.mem_keys_of_touched (keyed : m.Keyed) (fit : m.IsFit n drafts plan) {id : CardId}
    (h : id ∈ plan.toDelete ∨ id ∈ plan.toUpdate.map (·.id)) : id ∈ m.cards.keys := by
  obtain ⟨c, hc, rfl⟩ := fit.mem_cardsOf_of_touched h
  exact SortedMap.mem_keys_iff.mpr ⟨c, ((mem_cardsOf keyed).mp hc).1⟩

/-- A fitting plan deletes no card twice. -/
theorem IsFit.nodup_toDelete (keyed : m.Keyed) (fit : m.IsFit n drafts plan) :
    plan.toDelete.Nodup := by
  obtain ⟨nt, ctx, rfl, rfl⟩ := fit
  have haccounted := Reconcile.nodup_accounted drafts nt ctx
    (.startingAt (Store.nextId m.cards)) (nodup_ids_cardsOf keyed ctx.noteId)
  exact (List.nodup_append.mp haccounted).2.1

/-- The ids in use once a fitting plan is carried out: those of new cards come in, those of deleted
ones go. -/
theorem IsFit.mem_keys_writePlan (keyed : m.Keyed) (fit : m.IsFit n drafts plan) {id : CardId} :
    id ∈ (m.writePlan plan).cards.keys ↔
      id ∉ plan.toDelete ∧ (id ∈ m.cards.keys ∨ id ∈ plan.toCreate.map (·.id)) := by
  have hwritten : ((plan.toCreate ++ plan.toUpdate).find? (·.id = id)).isSome = true ↔
      id ∈ plan.toCreate.map (·.id) ∨ id ∈ plan.toUpdate.map (·.id) := by
    simp [List.find?_isSome]
  rw [SortedMap.mem_keys_iff_contains, SortedMap.contains, get?_writePlan (fit.nodup_written keyed)]
  by_cases hdel : id ∈ plan.toDelete
  · simp [hdel]
  · rw [if_neg hdel, Option.isSome_or, Bool.or_eq_true, hwritten, ← SortedMap.contains,
      ← SortedMap.mem_keys_iff_contains]
    constructor
    · rintro ((hnew | hupdate) | hkept)
      · exact ⟨hdel, .inr hnew⟩
      · exact ⟨hdel, .inl (fit.mem_keys_of_touched keyed (.inr hupdate))⟩
      · exact ⟨hdel, .inl hkept⟩
    · rintro ⟨-, hkept | hnew⟩
      · exact .inr hkept
      · exact .inl (.inl hnew)

/-- The ids of cards after a fitting plan, with the deleted ones, are those before it with the
created ones. -/
theorem IsFit.keys_writePlan (keyed : m.Keyed) (fit : m.IsFit n drafts plan) :
    ((m.writePlan plan).cards.keys ++ plan.toDelete).Perm
      (m.cards.keys ++ plan.toCreate.map (·.id)) := by
  have hleft : ((m.writePlan plan).cards.keys ++ plan.toDelete).Nodup := by
    refine List.nodup_append.mpr ⟨SortedMap.nodup_keys _, fit.nodup_toDelete keyed, ?_⟩
    rintro id hid _ hdel rfl
    exact ((fit.mem_keys_writePlan keyed).mp hid).1 hdel
  have hright : (m.cards.keys ++ plan.toCreate.map (·.id)).Nodup := by
    refine List.nodup_append.mpr ⟨SortedMap.nodup_keys _, ?_, ?_⟩
    · have hwritten := fit.nodup_written keyed
      rw [List.map_append] at hwritten
      exact (List.nodup_append.mp hwritten).1
    · rintro id hid _ hnew rfl
      obtain ⟨c', hget⟩ := SortedMap.mem_keys_iff.mp hid
      obtain ⟨c, hc, rfl⟩ := List.mem_map.mp hnew
      have hlt := fit.toCreate_fresh hc (holds_of_get? keyed hget)
      rw [keyed _ _ hget] at hlt
      exact absurd hlt (Int.lt_irrefl _)
  refine (List.perm_ext_iff_of_nodup hleft hright).mpr fun id => ?_
  rw [List.mem_append, List.mem_append, fit.mem_keys_writePlan keyed]
  constructor
  · rintro (⟨-, h⟩ | hdel)
    · exact h
    · exact .inl (fit.mem_keys_of_touched keyed (.inl hdel))
  · intro h
    by_cases hdel : id ∈ plan.toDelete
    · exact .inr hdel
    · exact .inl ⟨hdel, h⟩

/-- A fitting plan makes the store larger by its new cards and smaller by its deleted ones. -/
theorem IsFit.length_values_writePlan (keyed : m.Keyed) (fit : m.IsFit n drafts plan) :
    (m.writePlan plan).cards.values.length + plan.toDelete.length =
      m.cards.values.length + plan.toCreate.length := by
  have hkeys : ∀ m : Memory, m.cards.values.length = m.cards.keys.length := by
    simp [SortedMap.values, SortedMap.keys]
  have hlength := (fit.keys_writePlan keyed).length_eq
  rw [List.length_append, List.length_append, List.length_map] at hlength
  rwa [hkeys, hkeys]

/-- After a fitting plan cards are still stored under their ids. -/
theorem keyed_writePlan (keyed : m.Keyed) (fit : m.IsFit n drafts plan) :
    (m.writePlan plan).Keyed := by
  intro id c h
  rw [get?_writePlan (fit.nodup_written keyed)] at h
  split at h
  · cases h
  · cases hfind : (plan.toCreate ++ plan.toUpdate).find? (·.id = id) with
    | none =>
      rw [hfind] at h
      exact keyed id c h
    | some c' =>
      rw [hfind] at h
      cases h
      simpa using List.find?_some hfind

end Fit

/-! ## One note at a time -/

/-- What two stores agree on about a note: its cards, and their reviews. -/
structure SameNote (n : NoteId) (m m' : Memory) : Prop where
  cards : m'.cardsOf n = m.cardsOf n
  reviews : ∀ c ∈ m.cardsOf n, m'.reviewsOf c.id = m.reviewsOf c.id

/-- What a plan for a note makes of its cards, and what of their reviews it keeps. -/
structure FittedNote (n : NoteId) (plan : ReconcilePlan) (m m' : Memory) : Prop where
  cards : (m'.cardsOf n).Perm (plan.outcome (m.cardsOf n))
  reviews : ∀ c ∈ m.cardsOf n, c.id ∉ plan.toDelete → m'.reviewsOf c.id = m.reviewsOf c.id

theorem SameNote.refl (n : NoteId) (m : Memory) : SameNote n m m := ⟨rfl, fun _ _ => rfl⟩

/-- A note's cards are the same if all cards and records are. -/
theorem SameNote.of_eq (hcards : m'.cards = m.cards) (hreviews : m'.reviews = m.reviews) :
    SameNote n m m' := by
  constructor
  · rw [cardsOf, hcards, cardsOf]
  · intro c _
    rw [reviewsOf, hreviews, reviewsOf]

theorem SameNote.trans {m'' : Memory} (h : SameNote n m m') (h' : SameNote n m' m'') :
    SameNote n m m'' :=
  ⟨h'.cards.trans h.cards, fun c hc => (h'.reviews c (h.cards ▸ hc)).trans (h.reviews c hc)⟩

/-- A note may be left alone before it is fitted. -/
theorem SameNote.trans_fitted {m'' : Memory} {plan : ReconcilePlan} (h : SameNote n m m')
    (h' : FittedNote n plan m' m'') : FittedNote n plan m m'' := by
  refine ⟨h.cards ▸ h'.cards, ?_⟩
  intro c hc hdel
  exact (h'.reviews c (h.cards ▸ hc) hdel).trans (h.reviews c hc)

/-- And it may be left alone behind that. -/
theorem FittedNote.trans_same {m'' : Memory} {plan : ReconcilePlan} (h : FittedNote n plan m m')
    (h' : SameNote n m' m'') : FittedNote n plan m m'' := by
  refine ⟨h'.cards ▸ h.cards, ?_⟩
  intro c hc hdel
  -- the later step keeps the reviews of cards that are there, so the card is found by its id
  obtain ⟨c', hc', hid⟩ := plan.exists_mem_outcome hc hdel
  rw [← h.reviews c hc hdel, ← hid]
  exact h'.reviews c' (h.cards.mem_iff.mpr hc')

/-- The reviews of other cards are left when those of some cards are removed. -/
theorem reviewsOf_eq_of_filter {ids : List CardId} {id : CardId}
    (hreviews : m'.reviews = m.reviews.filter (·.1 ∉ ids)) (h : id ∉ ids) :
    m'.reviewsOf id = m.reviewsOf id := by
  rw [reviewsOf, hreviews, List.filter_filter, reviewsOf]
  congr 1
  refine List.filter_congr ?_
  intro e _
  by_cases he : e.1 = id
  · simp [he, h]
  · simp [he]

/-- A card that a plan does not delete keeps its records. -/
theorem reviewsOf_writePlan {plan : ReconcilePlan} {id : CardId} (h : id ∉ plan.toDelete) :
    (m.writePlan plan).reviewsOf id = m.reviewsOf id :=
  reviewsOf_eq_of_filter (reviews_writePlan m plan) h

section Fit

variable {drafts : List CardDraft} {plan : ReconcilePlan}

/-- To write a fitting plan fits its note. -/
theorem IsFit.fittedNote (keyed : m.Keyed) (fit : m.IsFit n drafts plan) :
    FittedNote n plan m (m.writePlan plan) := by
  refine ⟨?_, fun c _ hdel => reviewsOf_writePlan hdel⟩
  have keyed' := keyed_writePlan keyed fit
  refine (List.perm_ext_iff_of_nodup (List.Nodup.of_map _ (nodup_ids_cardsOf keyed' n))
    (List.Nodup.of_map _ (fit.nodup_ids_outcome keyed))).mpr ?_
  intro c
  rw [mem_cardsOf keyed', holds_writePlan keyed fit]
  constructor
  · rintro ⟨⟨hne, -⟩ | h, hn⟩
    · exact absurd hn hne
    · exact h
  · intro h
    exact ⟨Or.inr h, fit.noteId_of_mem_outcome keyed h⟩

/-- A fitting plan leaves all other notes alone. -/
theorem IsFit.sameNote (keyed : m.Keyed) (fit : m.IsFit n drafts plan) {n' : NoteId}
    (hne : n' ≠ n) : SameNote n' m (m.writePlan plan) := by
  refine ⟨cardsOf_congr keyed (keyed_writePlan keyed fit) ?_, ?_⟩
  · intro c hc
    rw [holds_writePlan keyed fit]
    constructor
    · rintro (⟨-, h⟩ | h)
      · exact h
      · exact absurd (hc.symm.trans (fit.noteId_of_mem_outcome keyed h)) hne
    · intro h
      exact Or.inl ⟨fun heq => hne (hc ▸ heq), h⟩
  · intro c hc
    refine reviewsOf_writePlan ?_
    intro hdel
    obtain ⟨hholds, hn'⟩ := (mem_cardsOf keyed).mp hc
    obtain ⟨c₀, hc₀, hid⟩ := fit.mem_cardsOf_of_touched (Or.inl hdel)
    obtain ⟨hholds₀, hn⟩ := (mem_cardsOf keyed).mp hc₀
    rw [← hholds₀.eq_of_id hholds hid, hn] at hn'
    exact hne hn'.symm

/-- To write a note with a fitting plan fits the note. -/
theorem IsFit.fittedNote_writeNote (keyed : m.Keyed) {note : Note}
    (fit : m.IsFit note.id drafts plan) : FittedNote note.id plan m (m.writeNote note plan) := by
  obtain ⟨hcards, hreviews⟩ := cards_writeNote note plan m
  exact (fit.fittedNote keyed).trans_same (.of_eq hcards hreviews)

/-- And it leaves all other notes alone. -/
theorem IsFit.sameNote_writeNote (keyed : m.Keyed) {note : Note}
    (fit : m.IsFit note.id drafts plan) {n' : NoteId} (hne : n' ≠ note.id) :
    SameNote n' m (m.writeNote note plan) := by
  obtain ⟨hcards, hreviews⟩ := cards_writeNote note plan m
  exact (fit.sameNote keyed hne).trans (.of_eq hcards hreviews)

end Fit

end Memory

end Flashcard
