import Flashcard.Proofs.Memory.Regeneration

/-!
# Making cards anew twice

Once the cards of a type were made anew, to do so again changes nothing, whichever deck and time the
second run is given: the cards show the drafts of their notes, and a note that failed fails again. So
the store that the first run leaves is a fixed point for each of its notes, and for all of them.

- `Memory.Current`: the cards of the listed notes show their drafts.
- `Memory.run_current`: a batch leaves such a store alone.

## Main statements

- `Memory.current_batch`: making cards anew leaves a store that is current.
- `Memory.regenerate_idempotent`: a second run does nothing, in every store in memory.
-/

namespace Flashcard

namespace Memory

open Collection

/-- The cards of each listed note that can be worked on show its drafts. -/
def Current (m : Memory) (nt : NoteType) (entries : List (Except StoreError Note)) : Prop :=
  ∀ note, .ok note ∈ entries → note.id ∉ m.failing → m.Shows note.id (nt.drafts note.fields)

/-! ## Batches over current notes -/

section Run

variable {m : Memory} (r : Regenerator) (nt : NoteType) (cancel : CancelSignal)

/-- The plan for a note whose cards show its drafts has nothing to do. -/
theorem planFor_isNoop {note : Note} (hshows : m.Shows note.id (nt.drafts note.fields)) :
    (m.planFor r nt note).isNoop = true :=
  Reconcile.isNoop_of_drafts _ nt _ _ hshows

/-- Two reports count the same cards. -/
def SameCards (report report' : RegenerationReport) : Prop :=
  report'.cardsCreated = report.cardsCreated ∧ report'.cardsUpdated = report.cardsUpdated ∧
    report'.cardsDeleted = report.cardsDeleted

/-- A plan that has nothing to do adds no card to a report. -/
theorem sameCards_addPlan {plan : ReconcilePlan} (h : plan.isNoop = true)
    (report : RegenerationReport) : SameCards report (report.addPlan plan) := by
  obtain ⟨hcreate, hupdate, hdelete⟩ := plan.isNoop_iff.mp h
  refine ⟨?_, ?_, ?_⟩ <;> simp [RegenerationReport.addPlan, hcreate, hupdate, hdelete]

theorem step_current (keyed : m.Keyed) (b : Batch) (entry : Except StoreError Note)
    (named : ∀ note, entry = .ok note → nt.name = note.typeName) (current : m.Current nt [entry]) :
    (b.step store r nt entry m).2 = m ∧
      SameCards b.report (b.step store r nt entry m).1.report := by
  cases hfailure : m.failureOf? entry with
  | some failure =>
    rw [step_failed r nt b hfailure named]
    exact ⟨rfl, rfl, rfl, rfl⟩
  | none =>
    obtain ⟨note, rfl, hn⟩ := failureOf?_eq_none.mp hfailure
    have hnoop := planFor_isNoop r nt (current note (List.mem_singleton_self _) hn)
    rw [step_fitted r nt keyed b hn (named note rfl)]
    exact ⟨writePlan_of_isNoop hnoop m, sameCards_addPlan hnoop b.report⟩

/-- **A batch leaves a current store alone**, and reports no card. -/
theorem run_current {entries : List (Except StoreError Note)} (b : Batch) (keyed : m.Keyed)
    (named : ∀ note, .ok note ∈ entries → nt.name = note.typeName)
    (current : m.Current nt entries) :
    (b.run store r nt cancel entries m).2 = m ∧
      SameCards b.report (b.run store r nt cancel entries m).1.report := by
  induction entries generalizing b with
  | nil => exact ⟨rfl, rfl, rfl, rfl⟩
  | cons entry rest ih =>
    rw [run_cons]
    split
    · exact ⟨rfl, rfl, rfl, rfl⟩
    obtain ⟨hstep, hcards⟩ := step_current r nt keyed b entry
      (fun note heq => named note (heq ▸ List.mem_cons_self ..))
      fun note hnote => current note (List.mem_singleton.mp hnote ▸ List.mem_cons_self ..)
    rw [hstep]
    obtain ⟨hrest, hcards'⟩ := ih (b.step store r nt entry m).1
      (fun note hnote => named note (List.mem_cons_of_mem _ hnote))
      fun note hnote => current note (List.mem_cons_of_mem _ hnote)
    exact ⟨hrest, hcards'.1.trans hcards.1, hcards'.2.1.trans hcards.2.1,
      hcards'.2.2.trans hcards.2.2⟩

end Run

/-! ## After a batch -/

/-- What batches go by is the same: notes, note types and planted failures. -/
structure SameNotes (m m' : Memory) : Prop where
  notes : m'.notes = m.notes
  noteTypes : m'.noteTypes = m.noteTypes
  failing : m'.failing = m.failing

section Run

variable {m m' : Memory} (r : Regenerator) (nt : NoteType) (cancel : CancelSignal)

theorem sameNotes_run (entries : List (Except StoreError Note)) (b : Batch) (m : Memory) :
    SameNotes m (b.run store r nt cancel entries m).2 :=
  ⟨run_notes .., run_types .., run_same r nt cancel (·.failing) failing_writePlan entries b m⟩

namespace SameNotes

variable (h : SameNotes m m')

include h

theorem listed (typeName : String) : m'.listed typeName = m.listed typeName := by
  rw [Memory.listed, h.notes, Memory.listed]

theorem filed (filed : Filed m) (keyed' : m'.Keyed) : Filed m' :=
  ⟨keyed', h.notes ▸ filed.notes, h.noteTypes ▸ filed.types⟩

theorem typed {typeName : String} (typed : m.noteTypes.get? typeName = some nt) :
    m'.noteTypes.get? typeName = some nt := by
  rw [h.noteTypes]
  exact typed

end SameNotes

/-- What a batch has worked on is current when it is done. -/
theorem current_run {entries : List (Except StoreError Note)} (b : Batch) (keyed : m.Keyed)
    (distinct : (idsOf entries).Nodup)
    (named : ∀ note, .ok note ∈ entries → nt.name = note.typeName)
    (uncancelled : ∀ progress, cancel progress = false) :
    (b.run store r nt cancel entries m).2.Current nt entries := by
  intro note hnote hn
  rw [(sameNotes_run r nt cancel entries b m).failing] at hn
  obtain ⟨first, -, hfits⟩ :=
    run_fitted r nt cancel b keyed distinct uncancelled hnote hn (named note hnote)
  exact hfits.shows keyed

end Run

/-- Where two runs list the same notes, of which the same ones fail, they count the same notes. -/
theorem Regenerated.same_counts {nt nt' : NoteType} {typeName : String} {m₁ m₁' m₂ m₂' : Memory}
    {report₁ report₂ : RegenerationReport} (h₁ : Regenerated nt typeName m₁ report₁ m₁')
    (h₂ : Regenerated nt' typeName m₂ report₂ m₂') (same : SameNotes m₁ m₂) :
    report₂.notesSucceeded = report₁.notesSucceeded ∧ report₂.notesFailed = report₁.notesFailed := by
  have hlisted := same.listed typeName
  have htotal : report₂.notesTotal = report₁.notesTotal := by
    rw [h₂.listed, h₁.listed, hlisted]
  have hfailed : report₂.notesFailed = report₁.notesFailed := by
    rw [← h₂.failures, ← h₁.failures, h₂.failed, h₁.failed, hlisted, failureOf?_congr same.failing]
  have := h₁.total
  have := h₂.total
  exact ⟨by omega, hfailed⟩

/-- A report that counts the same notes as another, and no cards. -/
structure Repeats (report report' : RegenerationReport) : Prop where
  created : report'.cardsCreated = 0
  updated : report'.cardsUpdated = 0
  deleted : report'.cardsDeleted = 0
  succeeded : report'.notesSucceeded = report.notesSucceeded
  failed : report'.notesFailed = report.notesFailed

section Batch

variable {m : Memory} {typeName : String} {options options' : RegenerationOptions} {nt : NoteType}

theorem sameNotes_batch (m : Memory) (scheduler : Scheduler) (typeName : String)
    (options : RegenerationOptions) (nt : NoteType) :
    SameNotes m (m.batch scheduler typeName options nt).2 := sameNotes_run ..

theorem filed_batch (filed : Filed m) (scheduler : Scheduler) (typeName : String)
    (options : RegenerationOptions) (nt : NoteType) :
    Filed (m.batch scheduler typeName options nt).2 :=
  (sameNotes_batch m scheduler typeName options nt).filed filed
    (keyed_run _ nt options.cancel filed.cards _)

variable (filed : Filed m) (typed : m.noteTypes.get? typeName = some nt)

include filed typed

/-- Making cards anew in a store in which the cards of the type are current changes nothing. -/
theorem batch_current (current : m.Current nt (m.listed typeName)) (scheduler : Scheduler)
    (options : RegenerationOptions) :
    (m.batch scheduler typeName options nt).2 = m ∧
      SameCards { noteType := typeName } (m.batch scheduler typeName options nt).1.report :=
  run_current _ nt options.cancel _ filed.cards (fun _ => named_listed filed typed) current

variable (uncancelled : ∀ progress, options.cancel progress = false)

include uncancelled

/-- **Making cards anew leaves a current store.** -/
theorem current_batch (scheduler : Scheduler) :
    (m.batch scheduler typeName options nt).2.Current nt
      ((m.batch scheduler typeName options nt).2.listed typeName) := by
  rw [(sameNotes_batch m scheduler typeName options nt).listed]
  exact current_run _ nt options.cancel _ filed.cards (nodup_idsOf_listed filed typeName)
    (fun _ => named_listed filed typed) uncancelled

/-- A second batch finds nothing to do, in every filed store. -/
theorem batch_again (scheduler scheduler' : Scheduler)
    (uncancelled' : ∀ progress, options'.cancel progress = false) :
    let first := m.batch scheduler typeName options nt
    let second := first.2.batch scheduler' typeName options' nt
    second.2 = first.2 ∧ Repeats first.1.report second.1.report := by
  intro first second
  have same := sameNotes_batch m scheduler typeName options nt
  have filed' : Filed first.2 := filed_batch filed ..
  have typed' : first.2.noteTypes.get? typeName = some nt := same.typed nt typed
  obtain ⟨hstore, hcreated, hupdated, hdeleted⟩ := batch_current filed' typed'
    (current_batch filed typed uncancelled scheduler) scheduler' options'
  obtain ⟨hsucceeded, hfailed⟩ := (regenerated_batch filed typed uncancelled).same_counts
    (regenerated_batch filed' typed' uncancelled') same
  exact ⟨hstore, hcreated, hupdated, hdeleted, hsucceeded, hfailed⟩

end Batch

/-- **Making cards anew twice is making them anew once**: in every store in memory, a second run for
the same type finds nothing to do, whatever scheduler, deck and time it is given. It leaves the store
as it is, marks included, and the same notes fail. -/
theorem regenerate_idempotent (acts : List Act) (scheduler : Scheduler) (typeName : String)
    (options : RegenerationOptions) (nt : NoteType)
    (typed : (made acts).noteTypes.get? typeName = some nt)
    (uncancelled : ∀ progress, options.cancel progress = false) :
    ∃ report m', regenerate store scheduler typeName options (made acts) = .ok report m' ∧
      ∀ (scheduler' : Scheduler) (options' : RegenerationOptions),
        (∀ progress, options'.cancel progress = false) →
          ∃ report', regenerate store scheduler' typeName options' m' = .ok report' m' ∧
            Repeats report report' := by
  refine ⟨_, _, regenerate_eq_batch typed scheduler options, ?_⟩
  intro scheduler' options' uncancelled'
  obtain ⟨hstore, repeats⟩ :=
    batch_again (filed_made acts) typed uncancelled scheduler scheduler' uncancelled'
  have typed' := (sameNotes_batch (made acts) scheduler typeName options nt).typed nt typed
  refine ⟨_, (regenerate_eq_batch typed' scheduler' options').trans ?_, repeats⟩
  rw [hstore]

/-- A store with stale, repeated and missing cards and with failing notes: a second run, with another
deck and a later time, does nothing. -/
theorem regenerate_idempotent_faulty :
    (made faulty).noteTypes.get? "Basic" = some NoteType.basic ∧ ∃ report m',
      regenerate store {} "Basic" ⟨1, ⟨0, 0⟩, neverCancelled⟩ (made faulty) = .ok report m' ∧
        ∃ report', regenerate store {} "Basic" ⟨7, ⟨90, 0⟩, neverCancelled⟩ m' = .ok report' m' ∧
          Repeats report report' := by
  have typed : (made faulty).noteTypes.get? "Basic" = some NoteType.basic := by decide +kernel
  obtain ⟨report, m', hdone, again⟩ := regenerate_idempotent faulty {} "Basic"
    ⟨1, ⟨0, 0⟩, neverCancelled⟩ _ typed fun _ => rfl
  exact ⟨typed, report, m', hdone, again {} ⟨7, ⟨90, 0⟩, neverCancelled⟩ fun _ => rfl⟩

end Memory

end Flashcard
