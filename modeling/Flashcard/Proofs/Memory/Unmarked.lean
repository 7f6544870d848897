import Flashcard.Proofs.Memory.Report

/-!
# Stores without their marks

Which cards a batch writes, and with what content, does not depend on the update sequence numbers that
it finds or gives: to take all marks off a store goes along with every step of a batch. So two batches
over the same notes that begin in stores which differ in marks only end in such stores.

- `Card.unmarked`, `ReconcilePlan.unmarked`, `Memory.unmarked`: without marks.
- `Reconcile.reconcile_unmarked`: the plan without marks is the one for the cards without marks.
- `Memory.unmarked_writePlan`: and so is what it writes.

## Main statements

- `Memory.run_unmarked`: a batch goes along with the same batch without marks.
-/

namespace Flashcard

/-! ## Cards and plans -/

/-- A card without its mark. -/
def Card.unmarked (c : Card) : Card := { c with usn := 0 }

section Fields

variable (c : Card)

@[simp] theorem Card.id_unmarked : c.unmarked.id = c.id := rfl

@[simp] theorem Card.noteId_unmarked : c.unmarked.noteId = c.noteId := rfl

@[simp] theorem Card.identity_unmarked : c.unmarked.identity = c.identity := rfl

end Fields

/-- A plan without its mark and those of its cards. -/
def ReconcilePlan.unmarked (plan : ReconcilePlan) : ReconcilePlan :=
  { plan with
    usn := 0
    toCreate := plan.toCreate.map Card.unmarked
    toUpdate := plan.toUpdate.map Card.unmarked }

/-- What the cards of a note have in common, without their mark. -/
def ReconcileContext.unmarked (ctx : ReconcileContext) : ReconcileContext := { ctx with usn := 0 }

namespace Reconcile

variable (existing : List Card) (drafts : List CardDraft)

/-- Cards are sorted by id, whatever their update sequence numbers. -/
theorem mergeSort_unmarked :
    ((existing.map Card.unmarked).mergeSort fun a b => a.id ≤ b.id) =
      (existing.mergeSort fun a b => a.id ≤ b.id).map Card.unmarked := by
  rw [List.map_mergeSort (s := fun a b => decide (a.id ≤ b.id))]
  exact fun _ _ _ _ => rfl

/-- The same cards are kept. -/
theorem kept_unmarked : kept (existing.map Card.unmarked) = (kept existing).map Card.unmarked := by
  rw [kept, mergeSort_unmarked]
  exact firstOfEach_map Card.identity_unmarked _

/-- The same cards are surplus. -/
theorem surplus_unmarked :
    surplus (existing.map Card.unmarked) = (surplus existing).map Card.unmarked := by
  rw [surplus, mergeSort_unmarked]
  exact laterOfEach_map Card.identity_unmarked _

/-- A draft matches the same card. -/
theorem match?_unmarked (cards : List Card) (d : CardDraft) :
    match? (cards.map Card.unmarked) d = (match? cards d).map Card.unmarked := by
  rw [match?, List.find?_map]
  rfl

/-- The same drafts are fresh. -/
theorem fresh_unmarked : fresh (existing.map Card.unmarked) drafts = fresh existing drafts := by
  rw [fresh, kept_unmarked, fresh]
  refine List.filter_congr fun d _ => ?_
  rw [match?_unmarked, Option.isNone_map]

/-- The same cards are matched with the same drafts. -/
theorem matched_unmarked :
    matched (existing.map Card.unmarked) drafts =
      (matched existing drafts).map fun p => (p.1.unmarked, p.2) := by
  rw [matched, kept_unmarked, matched, List.map_filterMap]
  refine List.filterMap_congr fun d _ => ?_
  rw [match?_unmarked, Option.map_map, Option.map_map]
  rfl

/-- The drafts of the same cards are gone. -/
theorem gone_unmarked :
    gone (existing.map Card.unmarked) drafts = (gone existing drafts).map Card.unmarked := by
  rw [gone, kept_unmarked, List.filter_map]
  rfl

/-- **A plan does not depend on marks**: for cards without marks it is the same plan without marks. -/
theorem reconcile_unmarked (nt : NoteType) (ctx : ReconcileContext) (ids : IdSequence) :
    (reconcile (existing.map Card.unmarked) drafts nt ctx.unmarked ids).1 =
      (reconcile existing drafts nt ctx ids).1.unmarked := by
  rw [reconcile_eq, reconcile_eq, fresh_unmarked, matched_unmarked, surplus_unmarked, gone_unmarked]
  simp only [ReconcilePlan.unmarked, List.map_map, List.filter_map, ← List.map_append]
  rfl

end Reconcile

/-! ## Stores -/

namespace Memory

open Collection

/-- A store without any marks. -/
def unmarked (m : Memory) : Memory :=
  { m with
    cards := m.cards.mapValues fun _ c => c.unmarked
    usn := 0 }

variable {m : Memory}

theorem get?_cards_unmarked (m : Memory) (id : CardId) :
    m.unmarked.cards.get? id = (m.cards.get? id).map Card.unmarked :=
  SortedMap.get?_mapValues _ m.cards id

/-- Cards are still stored under their ids. -/
theorem keyed_unmarked (keyed : m.Keyed) : m.unmarked.Keyed := by
  intro id c h
  rw [get?_cards_unmarked] at h
  obtain ⟨c', hget, rfl⟩ := Option.map_eq_some_iff.mp h
  exact keyed id c' hget

/-- A note has the same cards. -/
theorem cardsOf_unmarked (m : Memory) (n : NoteId) :
    m.unmarked.cardsOf n = (m.cardsOf n).map Card.unmarked := by
  have hvalues : m.unmarked.cards.values = m.cards.values.map Card.unmarked := by
    simp [unmarked, SortedMap.values, List.map_map]
  rw [cardsOf, hvalues, List.filter_map]
  rfl

/-- The next card gets the same id. -/
theorem nextId_unmarked (m : Memory) : Store.nextId m.unmarked.cards = Store.nextId m.cards :=
  Store.nextId_mapValues _ m.cards

/-- Cards can be unmarked before or after they are put. -/
theorem mapValues_foldl_insert (cards : List Card) (kept : SortedMap CardId Card) :
    (cards.foldl (fun kept c => kept.insert c.id c) kept).mapValues (fun _ c => c.unmarked) =
      (cards.map Card.unmarked).foldl (fun kept c => kept.insert c.id c)
        (kept.mapValues fun _ c => c.unmarked) := by
  induction cards generalizing kept with
  | nil => rfl
  | cons c rest ih =>
    refine (ih _).trans ?_
    rw [SortedMap.mapValues_insert fun _ _ => rfl]
    rfl

/-- Or before or after they are dropped. -/
theorem mapValues_foldl_erase (ids : List CardId) (kept : SortedMap CardId Card) :
    (ids.foldl SortedMap.erase kept).mapValues (fun _ c => c.unmarked) =
      ids.foldl SortedMap.erase (kept.mapValues fun _ c => c.unmarked) := by
  induction ids generalizing kept with
  | nil => rfl
  | cons id rest ih =>
    refine (ih _).trans ?_
    rw [SortedMap.mapValues_erase]
    rfl

/-- What a plan writes, without marks, is what the plan without marks writes. -/
theorem unmarked_writePlan (m : Memory) (plan : ReconcilePlan) :
    (m.writePlan plan).unmarked = m.unmarked.writePlan plan.unmarked := by
  have hcards : (plan.toDelete.foldl SortedMap.erase ((plan.toCreate ++ plan.toUpdate).foldl
      (fun kept c => kept.insert c.id c) m.cards)).mapValues (fun _ c => c.unmarked) =
      plan.unmarked.toDelete.foldl SortedMap.erase
        ((plan.unmarked.toCreate ++ plan.unmarked.toUpdate).foldl
          (fun kept c => kept.insert c.id c) m.unmarked.cards) := by
    rw [mapValues_foldl_erase, mapValues_foldl_insert, List.map_append]
    rfl
  have husn : (if plan.unmarked.isNoop then m.unmarked.usn
      else max m.unmarked.usn plan.unmarked.usn) = 0 := by
    split <;> rfl
  rw [writePlan_eq, writePlan_eq, husn, ← hcards]
  rfl

end Memory

/-! ## Batches -/

namespace Collection

/-- What the notes of a batch have in common, without its mark. -/
def Regenerator.unmarked (r : Regenerator) : Regenerator := { r with usn := 0 }

/-- A note's plan does not depend on update sequence numbers, except for those that it writes. -/
theorem Regenerator.fit_unmarked (r : Regenerator) (nt : NoteType) (note : Note)
    (existing : List Card) (first : CardId) :
    r.unmarked.fit nt note (existing.map Card.unmarked) first =
      (r.fit nt note existing first).unmarked := by
  have hcontext : r.unmarked.context note.id (existing.map Card.unmarked) =
      (r.context note.id existing).unmarked := by
    cases existing <;> rfl
  rw [Regenerator.fit, hcontext]
  exact Reconcile.reconcile_unmarked ..

end Collection

namespace Memory

open Collection

variable {m : Memory} (r : Regenerator) (nt : NoteType)

/-- Nor does it in a store. -/
theorem planFor_unmarked (m : Memory) (note : Note) :
    m.unmarked.planFor r.unmarked nt note = (m.planFor r nt note).unmarked := by
  rw [planFor, cardsOf_unmarked, nextId_unmarked]
  exact r.fit_unmarked nt note _ _

/-- A report counts a plan alike. -/
theorem addPlan_unmarked (report : RegenerationReport) (plan : ReconcilePlan) :
    report.addPlan plan.unmarked = report.addPlan plan := by
  simp [RegenerationReport.addPlan, ReconcilePlan.unmarked]

/-- A step of a batch goes along with the same step without marks. -/
theorem step_unmarked (keyed : m.Keyed) (b : Batch) {entry : Except StoreError Note}
    (named : ∀ note, entry = .ok note → nt.name = note.typeName) :
    b.step store r.unmarked nt entry m.unmarked =
      ((b.step store r nt entry m).1, (b.step store r nt entry m).2.unmarked) := by
  cases hfailure : m.failureOf? entry with
  | some failure =>
    have hfailure' : m.unmarked.failureOf? entry = some failure := hfailure
    rw [step_failed r nt b hfailure named, step_failed r.unmarked nt b hfailure' named]
  | none =>
    obtain ⟨note, rfl, hn⟩ := failureOf?_eq_none.mp hfailure
    rw [step_fitted r nt keyed b hn (named note rfl),
      step_fitted r.unmarked nt (keyed_unmarked keyed) b hn (named note rfl), planFor_unmarked,
      addPlan_unmarked, unmarked_writePlan]
    simp [ReconcilePlan.unmarked]

/-- **A batch goes along with the same batch without marks**: it reports the same, and leaves the same
store but for its marks. -/
theorem run_unmarked (cancel : CancelSignal) {entries : List (Except StoreError Note)} (b : Batch)
    (keyed : m.Keyed) (named : ∀ note, .ok note ∈ entries → nt.name = note.typeName) :
    b.run store r.unmarked nt cancel entries m.unmarked =
      ((b.run store r nt cancel entries m).1, (b.run store r nt cancel entries m).2.unmarked) := by
  induction entries generalizing b m with
  | nil => rfl
  | cons entry rest ih =>
    rw [run_cons, run_cons]
    split
    · rfl
    rw [step_unmarked r nt keyed b fun note heq => named note (heq ▸ List.mem_cons_self ..)]
    exact ih _ (keyed_step r nt keyed b entry)
      fun note hnote => named note (List.mem_cons_of_mem _ hnote)

end Memory

end Flashcard
