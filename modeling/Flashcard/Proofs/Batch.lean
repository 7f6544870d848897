import Flashcard.Proofs.Operation

/-!
# Batches

A batch asks whether it is cancelled and takes a step, note after note. Whatever the store, a step
leaves it as it is or carries out the plan for its note. So what plans keep is kept by batches, and
what a batch does to the store does not depend on what was reported before.

- `step_snd_cases`: all that a step can do to the store.
- `run_cons`, `run_append`: a batch from its first step, and in two parts.
- `regenerate_eq_ok`: making cards anew is a batch, once it has begun.

## Main statements

- `run_invariant`: what each step keeps, a batch keeps.
- `run_cut`: what a batch leaves that is asked to stop.
-/

namespace Flashcard

namespace Collection

variable {σ : Type} {store : Store σ} {s : σ}

/-! ## One step -/

section Step

variable {r : Regenerator} {nt : NoteType}

theorem step_snd {note : Note} {plan : ReconcilePlan} (b : Batch)
    (h : r.plan store nt note s = .ok plan) :
    (b.step store r nt (.ok note) s).2 = left (store.applyPlan plan) s := by
  unfold Batch.step left
  simp only [h]
  cases store.applyPlan plan s <;> rfl

/-- A step leaves the store as it is, or carries out the plan for its note, whatever was reported
before it. -/
theorem step_snd_cases (r : Regenerator) (nt : NoteType) (entry : Except StoreError Note) (s : σ) :
    (∀ b : Batch, (b.step store r nt entry s).2 = s) ∨
      ∃ note plan, entry = .ok note ∧ r.plan store nt note s = .ok plan ∧
        ∀ b : Batch, (b.step store r nt entry s).2 = left (store.applyPlan plan) s := by
  cases entry with
  | error e => exact .inl fun _ => rfl
  | ok note =>
    cases hplan : r.plan store nt note s with
    | error e =>
      refine .inl fun b => ?_
      simp only [Batch.step, hplan]
    | ok plan => exact .inr ⟨note, plan, rfl, hplan, fun b => step_snd b hplan⟩

theorem step_snd_congr (b b' : Batch) (entry : Except StoreError Note) (s : σ) :
    (b.step store r nt entry s).2 = (b'.step store r nt entry s).2 := by
  rcases step_snd_cases r nt entry s with h | ⟨_, _, -, -, h⟩
  · rw [h, h]
  · rw [h, h]

/-- A step counts its entry, whatever comes of it. -/
theorem notes_step (b : Batch) (entry : Except StoreError Note) (s : σ) :
    (b.step store r nt entry s).1.progress.notes = b.progress.notes + 1 := by
  unfold Batch.step
  cases entry with
  | error e => rfl
  | ok note =>
    dsimp only
    cases r.plan store nt note s with
    | error e => rfl
    | ok plan =>
      dsimp only
      cases store.applyPlan plan s <;> rfl

end Step

/-! ## Runs -/

/-- A batch first asks whether it is cancelled, then takes a step. -/
theorem run_cons (b : Batch) (r : Regenerator) (nt : NoteType) (cancel : CancelSignal)
    (entry : Except StoreError Note) (rest : List (Except StoreError Note)) :
    b.run store r nt cancel (entry :: rest) s =
      if cancel b.progress then ({ b with report := { b.report with cancelled := true } }, s)
      else (b.step store r nt entry s).1.run store r nt cancel rest
        (b.step store r nt entry s).2 := rfl

section Runs

variable (r : Regenerator) (nt : NoteType) {cancel : CancelSignal}
  {entries : List (Except StoreError Note)}

/-- **What each step keeps, a batch keeps**, be it cancelled or not. -/
theorem run_invariant {p : σ → Prop} (cancel : CancelSignal) (b : Batch)
    (step : ∀ entry ∈ entries, ∀ (b : Batch) s, p s → p (b.step store r nt entry s).2) (hs : p s) :
    p (b.run store r nt cancel entries s).2 := by
  induction entries generalizing b s with
  | nil => exact hs
  | cons entry rest ih =>
    rw [run_cons]
    split
    · exact hs
    · exact ih _ (fun entry' hentry => step entry' (List.mem_cons_of_mem _ hentry))
        (step entry (List.mem_cons_self ..) b s hs)

/-- A batch that no one cancels works on one part of its notes after the other. -/
theorem run_append (uncancelled : ∀ progress, cancel progress = false) (b : Batch)
    (later : List (Except StoreError Note)) (s : σ) :
    b.run store r nt cancel (entries ++ later) s =
      (b.run store r nt cancel entries s).1.run store r nt cancel later
        (b.run store r nt cancel entries s).2 := by
  induction entries generalizing b s with
  | nil => rfl
  | cons entry rest ih =>
    rw [List.cons_append, run_cons, run_cons, uncancelled, if_neg Bool.false_ne_true,
      if_neg Bool.false_ne_true, ih]

/-- What a batch does to the store does not depend on what was reported before, if no one cancels it. -/
theorem run_snd_congr {cancel' : CancelSignal} (uncancelled : ∀ progress, cancel progress = false)
    (uncancelled' : ∀ progress, cancel' progress = false) (b b' : Batch) (s : σ) :
    (b.run store r nt cancel entries s).2 = (b'.run store r nt cancel' entries s).2 := by
  induction entries generalizing b b' s with
  | nil => rfl
  | cons entry rest ih =>
    rw [run_cons, run_cons, uncancelled, uncancelled', if_neg Bool.false_ne_true,
      if_neg Bool.false_ne_true, step_snd_congr b b']
    exact ih ..

theorem notes_run (uncancelled : ∀ progress, cancel progress = false) (b : Batch) (s : σ) :
    (b.run store r nt cancel entries s).1.progress.notes = b.progress.notes + entries.length := by
  induction entries generalizing b s with
  | nil => rfl
  | cons entry rest ih =>
    rw [run_cons, uncancelled, if_neg Bool.false_ne_true, ih, notes_step, List.length_cons]
    omega

/-- A batch that is first asked to stop when it has worked on some of its notes leaves what an
uncancelled one over these notes leaves. -/
theorem run_cut {k : Nat} (b : Batch) (s : σ)
    (unseen : ∀ i < k,
      cancel (b.run store r nt neverCancelled (entries.take i) s).1.progress = false)
    (seen : cancel (b.run store r nt neverCancelled (entries.take k) s).1.progress = true) :
    (b.run store r nt cancel entries s).2 =
      (b.run store r nt neverCancelled (entries.take k) s).2 := by
  induction entries generalizing b s k with
  | nil =>
    rw [List.take_nil]
    rfl
  | cons entry rest ih =>
    cases k with
    | zero =>
      have hcancel : cancel b.progress = true := seen
      rw [run_cons, if_pos hcancel]
      rfl
    | succ k =>
      have hcancel : cancel b.progress = false := unseen 0 (Nat.succ_pos k)
      rw [run_cons, hcancel, if_neg Bool.false_ne_true]
      exact ih _ _ (fun i hi => unseen (i + 1) (Nat.succ_lt_succ hi)) seen

end Runs

/-! ## Making cards anew -/

section Regenerate

variable {scheduler : Scheduler} {typeName : String} {options : RegenerationOptions} {nt : NoteType}

/-- Making cards anew is a batch over the listed notes, once it has begun. -/
theorem regenerate_eq_ok {entries : List (Except StoreError Note)} {decks : SortedMap String DeckId}
    {usn : Usn} (loaded : loadNoteType store typeName s = .ok nt)
    (listed : store.notesOfType typeName s = .ok entries)
    (named : store.deckNames s = .ok decks) (marked : store.nextUsn s = .ok usn) :
    regenerate store scheduler typeName options s =
      let (batch, s') :=
        Batch.run ⟨{ noteType := typeName, notesTotal := entries.length }, {}⟩ store
          ⟨scheduler, decks, options.defaultDeck, usn, options.now⟩ nt options.cancel entries s
      .ok batch.report s' := by
  unfold regenerate
  rw [loaded, listed, named, marked]
  rfl

theorem regenerate_eq_unlisted {e : StoreError} (loaded : loadNoteType store typeName s = .ok nt)
    (unlisted : store.notesOfType typeName s = .error e) :
    regenerate store scheduler typeName options s = .error (.store e) s := by
  unfold regenerate
  rw [loaded, unlisted]
  rfl

theorem regenerate_eq_error {e : CollectionError}
    (refused : loadNoteType store typeName s = .error e) :
    regenerate store scheduler typeName options s = .error e s := by
  unfold regenerate
  rw [refused]
  rfl

end Regenerate

end Collection

end Flashcard
