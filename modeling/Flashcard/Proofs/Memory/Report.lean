import Flashcard.Proofs.Memory.History
import Mathlib.Algebra.Ring.Nat

/-!
# What the report of a batch counts

A step of a batch carries out the plan for the cards of its note, or says why it could not and changes
nothing. So the report of a batch counts each entry once and each card that comes or goes. Where no
note fails, the new and the deleted cards are those of the plans for the notes, each made from the cards
that its note had when the batch began.

- `Memory.planFor`: the plan for a note, from the cards at hand.
- `Memory.failureOf?`: why a batch reports an entry as failed.
- `Memory.step_fitted`, `Memory.step_failed`: all that a step can do.
- `Memory.Tallied`: how a report grows, and with it the number of cards.

## Main statements

- `Memory.tallied_run`: a batch counts what happens.
- `Memory.run_counts`: the counts of cards, from the plans. `Memory.run_idle_iff`: when they are zero.
-/

namespace Flashcard

namespace Memory

open Collection

/-- The notes of a listing that can be read. -/
def readable (entries : List (Except StoreError Note)) : List Note :=
  entries.filterMap (·.toOption)

theorem mem_readable {entries : List (Except StoreError Note)} {note : Note} :
    note ∈ readable entries ↔ .ok note ∈ entries := by
  rw [readable, List.mem_filterMap]
  constructor
  · rintro ⟨entry, hentry, hread⟩
    cases entry with
    | error _ => cases hread
    | ok _ =>
      cases hread
      exact hentry
  · intro h
    exact ⟨_, h, rfl⟩

/-- The plan for the cards of a note, from the cards that it has. -/
def planFor (m : Memory) (r : Regenerator) (nt : NoteType) (note : Note) : ReconcilePlan :=
  r.fit nt note (m.cardsOf note.id) (Store.nextId m.cards)

section PlanFor

variable {m m' : Memory} (r : Regenerator) (nt : NoteType) {note : Note}

/-- How many cards a plan creates and deletes depends on the cards of its note only. -/
theorem planFor_counts (h : m'.cardsOf note.id = m.cardsOf note.id) :
    (m'.planFor r nt note).toCreate.length = (m.planFor r nt note).toCreate.length ∧
      (m'.planFor r nt note).toDelete.length = (m.planFor r nt note).toDelete.length := by
  unfold planFor
  rw [h]
  refine ⟨?_, rfl⟩
  rw [Regenerator.fit, Reconcile.length_toCreate, Regenerator.fit, Reconcile.length_toCreate]

/-- The plan for a note creates no card and deletes none where the identities of its cards are those
of its drafts. -/
theorem planFor_eq_nil_iff (sound : Sound m) :
    (m.planFor r nt note).toCreate = [] ∧ (m.planFor r nt note).toDelete = [] ↔
      ∀ i, i ∈ (nt.drafts note.fields).map CardDraft.identity ↔
        i ∈ (m.cardsOf note.id).map Card.identity := by
  have single : ((m.cardsOf note.id).map Card.identity).Nodup :=
    List.Nodup.map_on (sound.single_cardsOf note.id) (.of_map _ (nodup_ids_cardsOf sound.keyed note.id))
  rw [planFor, Regenerator.fit, Reconcile.toCreate_eq_nil_iff,
    Reconcile.toDelete_eq_nil_iff _ _ _ _ single, ← forall_and]
  exact forall_congr' fun i => iff_iff_implies_and_implies.symm

end PlanFor

/-! ## What a step reports -/

section Step

variable {m : Memory} (r : Regenerator) (nt : NoteType) {note : Note}

/-- Why a batch reports an entry as failed: it cannot be read, or its note was made to fail. -/
def failureOf? (m : Memory) : Except StoreError Note → Option NoteFailure
  | .error e => some ⟨none, e.message⟩
  | .ok note =>
    if note.id ∈ m.failing then some ⟨some note.id, (StoreError.backend (.injected note.id)).message⟩
    else none

theorem failureOf?_congr {m' : Memory} (h : m'.failing = m.failing) :
    m'.failureOf? = m.failureOf? := by
  funext entry
  cases entry with
  | error e => rfl
  | ok note => rw [failureOf?, h, failureOf?]

/-- Where an entry is not reported as failed, it is a note that was not made to fail. -/
theorem failureOf?_eq_none {entry : Except StoreError Note} :
    m.failureOf? entry = none ↔ ∃ note, entry = .ok note ∧ note.id ∉ m.failing := by
  cases entry with
  | error e => simp [failureOf?]
  | ok note => by_cases hn : note.id ∈ m.failing <;> simp [failureOf?, hn]

theorem plan_eq_planFor (hn : note.id ∉ m.failing) (named : nt.name = note.typeName) :
    r.plan store nt note m = .ok (m.planFor r nt note) :=
  Regenerator.plan_eq_ok.mpr
    ⟨named, m.cardsOf note.id, _, cardsOfNote_eq (checkNote_eq_ok.mpr hn), rfl, rfl⟩

/-- There is no plan for a note that was made to fail. -/
theorem plan_failing (hn : note.id ∈ m.failing) (named : nt.name = note.typeName) :
    r.plan store nt note m = .error (.store (.backend (.injected note.id))) := by
  unfold Regenerator.plan
  rw [compile_only_eq_ok.mpr ⟨named, rfl⟩, cardsOfNote_failing hn]
  rfl

/-- The step for a note that was not made to fail carries out the plan for its cards. -/
theorem step_fitted (keyed : m.Keyed) (b : Batch) (hn : note.id ∉ m.failing)
    (named : nt.name = note.typeName) :
    b.step store r nt (.ok note) m =
      (⟨b.report.addPlan (m.planFor r nt note), ⟨b.progress.notes + 1,
        b.progress.newCards + (m.planFor r nt note).toCreate.length⟩⟩,
        m.writePlan (m.planFor r nt note)) := by
  have happly : store.applyPlan (m.planFor r nt note) m =
      .ok () (m.writePlan (m.planFor r nt note)) := by
    rw [applyPlan_eq, planFor, (isFit_fit r nt note m).checkPlan keyed hn]
    rfl
  simp only [Batch.step, plan_eq_planFor r nt hn named, happly]

/-- The step for an entry that fails reports it and changes nothing. -/
theorem step_failed (b : Batch) {entry : Except StoreError Note} {failure : NoteFailure}
    (h : m.failureOf? entry = some failure)
    (named : ∀ note, entry = .ok note → nt.name = note.typeName) :
    b.step store r nt entry m =
      (⟨b.report.addFailure failure.noteId failure.error,
        { b.progress with notes := b.progress.notes + 1 }⟩, m) := by
  cases entry with
  | error e =>
    cases h
    rfl
  | ok note =>
    rw [failureOf?] at h
    split at h
    · next hn =>
      cases h
      simp only [Batch.step, plan_failing r nt hn (named note rfl)]
      rfl
    · cases h

end Step

/-! ## The counts of a batch -/

/-- How the report of a batch grows as it works on entries, and with it the number of cards. -/
structure Tallied (entries : List (Except StoreError Note)) (b : Batch) (m : Memory) (b' : Batch)
    (m' : Memory) : Prop where
  total : b'.report.notesTotal = b.report.notesTotal
  /-- Each entry succeeds or fails. -/
  worked : b'.report.notesSucceeded + b'.report.notesFailed =
    b.report.notesSucceeded + b.report.notesFailed + entries.length
  failed : b'.report.notesFailed = b.report.notesFailed + (entries.filterMap m.failureOf?).length
  failures : b'.report.failures = b.report.failures ++ entries.filterMap m.failureOf?
  /-- Each card that is reported as new came in, and each that is reported as deleted went. -/
  grown : m'.cards.values.length + b'.report.cardsDeleted + b.report.cardsCreated =
    m.cards.values.length + b'.report.cardsCreated + b.report.cardsDeleted

section Counts

variable {m : Memory} (r : Regenerator) (nt : NoteType) (cancel : CancelSignal)

theorem tallied_step (keyed : m.Keyed) (b : Batch) (entry : Except StoreError Note)
    (named : ∀ note, entry = .ok note → nt.name = note.typeName) :
    Tallied [entry] b m (b.step store r nt entry m).1 (b.step store r nt entry m).2 := by
  cases hfailure : m.failureOf? entry with
  | some failure =>
    have hlisted : [entry].filterMap m.failureOf? = [failure] := by simp [hfailure]
    rw [step_failed r nt b hfailure named]
    refine ⟨rfl, rfl, ?_, ?_, Nat.add_right_comm ..⟩
    · rw [hlisted]
      rfl
    · rw [hlisted]
      rfl
  | none =>
    obtain ⟨note, rfl, hn⟩ := failureOf?_eq_none.mp hfailure
    have hlisted : [.ok note].filterMap m.failureOf? = [] := by simp [hfailure]
    have hlength := (isFit_fit r nt note m).length_values_writePlan keyed
    rw [step_fitted r nt keyed b hn (named note rfl)]
    refine ⟨rfl, ?_, ?_, ?_, ?_⟩
    · simp only [RegenerationReport.addPlan, List.length_singleton]
      omega
    · rw [hlisted]
      rfl
    · rw [hlisted, List.append_nil]
      rfl
    · rw [planFor]
      simp only [RegenerationReport.addPlan]
      omega

/-- **A batch counts what happens**: each entry once, with why it failed if it did, and each card that
comes or goes. -/
theorem tallied_run {entries : List (Except StoreError Note)} (b : Batch) (keyed : m.Keyed)
    (named : ∀ note, .ok note ∈ entries → nt.name = note.typeName)
    (uncancelled : ∀ progress, cancel progress = false) :
    Tallied entries b m (b.run store r nt cancel entries m).1
      (b.run store r nt cancel entries m).2 := by
  induction entries generalizing b m with
  | nil => exact ⟨rfl, rfl, rfl, (List.append_nil _).symm, Nat.add_right_comm ..⟩
  | cons entry rest ih =>
    rw [run_cons, uncancelled, if_neg Bool.false_ne_true]
    have hstep := tallied_step r nt keyed b entry fun note heq =>
      named note (heq ▸ List.mem_cons_self ..)
    have hrest := ih (b.step store r nt entry m).1 (keyed_step r nt keyed b entry)
      fun note hnote => named note (List.mem_cons_of_mem _ hnote)
    -- what fails at the end would have failed at the beginning
    have hfailing : (b.step store r nt entry m).2.failureOf? = m.failureOf? :=
      failureOf?_congr (step_same r nt (·.failing) failing_writePlan entry b m)
    have hfailed := hrest.failed
    have hfailures := hrest.failures
    rw [hfailing] at hfailed hfailures
    have hlisted : (entry :: rest).filterMap m.failureOf? =
        [entry].filterMap m.failureOf? ++ rest.filterMap m.failureOf? := by
      rw [← List.filterMap_append]
      rfl
    refine ⟨hrest.total.trans hstep.total, ?_, ?_, ?_, ?_⟩
    · have := hstep.worked
      have := hrest.worked
      simp only [List.length_cons, List.length_nil] at *
      omega
    · rw [hlisted, List.length_append, hfailed, hstep.failed, Nat.add_assoc]
    · rw [hlisted, hfailures, hstep.failures, List.append_assoc]
    · have := hstep.grown
      have := hrest.grown
      omega

/-- **The report of a batch** counts the new and the deleted cards of the plans for its notes, as they
are when it begins. -/
theorem run_counts {entries : List (Except StoreError Note)} (b : Batch) (keyed : m.Keyed)
    (distinct : (idsOf entries).Nodup) (calm : m.failing = [])
    (named : ∀ note, .ok note ∈ entries → nt.name = note.typeName)
    (uncancelled : ∀ progress, cancel progress = false) :
    (b.run store r nt cancel entries m).1.report.cardsCreated = b.report.cardsCreated +
        ((readable entries).map fun note => (m.planFor r nt note).toCreate.length).sum ∧
      (b.run store r nt cancel entries m).1.report.cardsDeleted = b.report.cardsDeleted +
        ((readable entries).map fun note => (m.planFor r nt note).toDelete.length).sum := by
  induction entries generalizing b m with
  | nil => exact ⟨rfl, rfl⟩
  | cons entry rest ih =>
    rw [run_cons, uncancelled, if_neg Bool.false_ne_true]
    have calm' : (b.step store r nt entry m).2.failing = [] :=
      (step_same r nt (·.failing) failing_writePlan entry b m).trans calm
    obtain ⟨hcreated, hdeleted⟩ := ih (b.step store r nt entry m).1 (keyed_step r nt keyed b entry)
      (nodup_idsOf_rest distinct) calm' fun note hnote => named note (List.mem_cons_of_mem _ hnote)
    cases entry with
    | error e => exact ⟨hcreated, hdeleted⟩
    | ok note =>
      -- the step touches the cards of its own note only, and that note is not listed again
      have hrest : ∀ note' ∈ readable rest,
          (b.step store r nt (.ok note) m).2.cardsOf note'.id = m.cardsOf note'.id := by
        intro note' hnote'
        refine (step_other r nt keyed b ?_).cards
        rintro _ ⟨⟩ heq
        exact not_mem_rest distinct note' (mem_readable.mp hnote') heq.symm
      have hcalm : note.id ∉ m.failing := calm ▸ List.not_mem_nil
      have hreport : (b.step store r nt (.ok note) m).1.report =
          b.report.addPlan (m.planFor r nt note) := by
        rw [step_fitted r nt keyed b hcalm (named note (List.mem_cons_self ..))]
      have hcreatedRest := List.map_congr_left fun note' hnote' =>
        (planFor_counts r nt (hrest note' hnote')).1
      have hdeletedRest := List.map_congr_left fun note' hnote' =>
        (planFor_counts r nt (hrest note' hnote')).2
      rw [hreport, hcreatedRest] at hcreated
      rw [hreport, hdeletedRest] at hdeleted
      have hlisted : readable (.ok note :: rest) = note :: readable rest := rfl
      rw [hcreated, hdeleted, hlisted]
      simp only [List.map_cons, List.sum_cons, RegenerationReport.addPlan, Nat.add_assoc, and_self]

/-- A batch that begins without new and deleted cards ends without them where no plan has any. -/
theorem run_idle_iff {entries : List (Except StoreError Note)} (b : Batch) (keyed : m.Keyed)
    (distinct : (idsOf entries).Nodup) (calm : m.failing = [])
    (named : ∀ note, .ok note ∈ entries → nt.name = note.typeName)
    (uncancelled : ∀ progress, cancel progress = false)
    (created : b.report.cardsCreated = 0) (deleted : b.report.cardsDeleted = 0) :
    (b.run store r nt cancel entries m).1.report.cardsCreated = 0 ∧
        (b.run store r nt cancel entries m).1.report.cardsDeleted = 0 ↔
      ∀ note, .ok note ∈ entries →
        (m.planFor r nt note).toCreate = [] ∧ (m.planFor r nt note).toDelete = [] := by
  obtain ⟨hcreated, hdeleted⟩ := run_counts r nt cancel b keyed distinct calm named uncancelled
  rw [hcreated, hdeleted, created, deleted, Nat.zero_add, Nat.zero_add]
  simp only [List.sum_eq_zero_iff_forall_eq_nat, List.forall_mem_map, List.length_eq_zero_iff, mem_readable]
  exact ⟨fun h note hnote => ⟨h.1 note hnote, h.2 note hnote⟩,
    fun h => ⟨fun note hnote => (h note hnote).1, fun note hnote => (h note hnote).2⟩⟩

end Counts

end Memory

end Flashcard
