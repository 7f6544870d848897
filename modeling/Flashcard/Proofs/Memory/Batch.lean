import Flashcard.Proofs.Memory.Sound

/-!
# What a batch does to each note

A batch works on the listed notes one after another, and each step touches the cards of its own note
only. So in the end the cards of each note are what they were, or what one plan, made from what they
were, makes of them.

- `Memory.step_eq`: one step.
- `Memory.run_same`: what a batch never touches.
- `Memory.run_untouched`, `Memory.run_other`: the cards of a note that is not listed or was made to fail.
- `Memory.run_listed`, `Memory.run_fitted`: the cards of a listed note.
-/

namespace Flashcard

namespace Memory

open Collection

/-! ## One step -/

section Checks

variable {m : Memory} {n : NoteId}

theorem checkNote_eq_ok : m.checkNote n = .ok () ↔ n ∉ m.failing := by
  rw [checkNote]
  split <;> simp [*]

/-- The cards of a note that was made to fail cannot be read. -/
theorem cardsOfNote_failing (h : n ∈ m.failing) :
    store.cardsOfNote n m = .error (.backend (.injected n)) := by
  show cardsOfNote n m = _
  rw [cardsOfNote, checkNote, if_pos h]
  rfl

/-- A fitting plan is refused only for a note that was made to fail. -/
theorem IsFit.checkPlan (keyed : m.Keyed) {drafts : List CardDraft} {plan : ReconcilePlan}
    (fit : m.IsFit n drafts plan) (hn : n ∉ m.failing) : m.checkPlan plan = .ok () := by
  -- the cards that the plan touches are cards of the note, so they are there
  have hcheck : ∀ id, id ∈ plan.toDelete ∨ id ∈ plan.toUpdate.map (·.id) →
      m.checkCard id = .ok () := by
    intro id hid
    obtain ⟨c, hc, rfl⟩ := fit.mem_cardsOf_of_touched hid
    exact if_pos (SortedMap.contains_iff.mpr ⟨c, ((mem_cardsOf keyed).mp hc).1⟩)
  have hnote : m.checkNote plan.noteId = .ok () := by
    obtain ⟨nt, ctx, rfl, rfl⟩ := fit
    exact checkNote_eq_ok.mpr hn
  rw [Memory.checkPlan, hnote]
  show (do
    plan.toUpdate.forM fun c => m.checkCard c.id
    plan.toDelete.forM m.checkCard) = Except.ok ()
  rw [forM_eq_ok fun c hc => hcheck c.id (Or.inr (List.mem_map_of_mem hc))]
  exact forM_eq_ok fun id hid => hcheck id (Or.inl hid)

end Checks

variable (r : Regenerator) (nt : NoteType) (cancel : CancelSignal) {m : Memory}

/-- A step fits the cards of its note, unless the note was made to fail or is of another type. -/
theorem step_eq (keyed : m.Keyed) (b : Batch) (note : Note) :
    (b.step store r nt (.ok note) m).2 =
      if note.id ∉ m.failing ∧ nt.name = note.typeName then
        m.writePlan (r.fit nt note (m.cardsOf note.id) (Store.nextId m.cards))
      else m := by
  cases hplan : r.plan store nt note m with
  | error e =>
    -- a plan that cannot be made is reported, and the store stays
    have hstep : (b.step store r nt (.ok note) m).2 = m := by simp only [Batch.step, hplan]
    rw [hstep, if_neg]
    rintro ⟨hfailing, hname⟩
    have hok : r.plan store nt note m = .ok _ := Regenerator.plan_eq_ok.mpr
      ⟨hname, m.cardsOf note.id, _, cardsOfNote_eq (checkNote_eq_ok.mpr hfailing), rfl, rfl⟩
    rw [hplan] at hok
    cases hok
  | ok plan =>
    obtain ⟨hname, existing, first, hcards, ⟨⟩, rfl⟩ := Regenerator.plan_eq_ok.mp hplan
    obtain ⟨hcheck, rfl⟩ := cardsOfNote_eq_ok.mp hcards
    have hfailing := checkNote_eq_ok.mp hcheck
    rw [step_snd b hplan, if_pos ⟨hfailing, hname⟩]
    unfold left
    rw [applyPlan_eq, (isFit_fit r nt note m).checkPlan keyed hfailing]
    rfl

/-! ## What a batch never touches -/

/-- What no plan changes, no step changes. -/
theorem step_same {α : Type} (f : Memory → α) (h : ∀ m plan, f (m.writePlan plan) = f m)
    (entry : Except StoreError Note) (b : Batch) (m : Memory) :
    f (b.step store r nt entry m).2 = f m := by
  rcases step_cases b r nt entry m with hstep | ⟨_, -, -, hstep⟩
  · rw [hstep]
  · rw [hstep, h]

/-- What no step changes, no batch changes. -/
theorem run_same {α : Type} (f : Memory → α) (h : ∀ m plan, f (m.writePlan plan) = f m)
    (entries : List (Except StoreError Note)) (b : Batch) (m : Memory) :
    f (b.run store r nt cancel entries m).2 = f m := by
  refine run_invariant r nt (p := fun m' => f m' = f m) cancel b (fun entry _ b m' heq => ?_) rfl
  exact (step_same r nt f h entry b m').trans heq

section Fields

variable (entries : List (Except StoreError Note)) (b : Batch) (m : Memory)

theorem run_notes : (b.run store r nt cancel entries m).2.notes = m.notes :=
  run_same r nt cancel (·.notes) notes_writePlan entries b m

theorem run_types : (b.run store r nt cancel entries m).2.noteTypes = m.noteTypes :=
  run_same r nt cancel (·.noteTypes) noteTypes_writePlan entries b m

end Fields

/-! ## Note by note -/

/-- Each listed note is in the store. -/
def Stored (m : Memory) (entries : List (Except StoreError Note)) : Prop :=
  ∀ note, .ok note ∈ entries → m.notes.contains note.id = true

theorem Stored.tail {entry : Except StoreError Note} {rest : List (Except StoreError Note)}
    (h : Stored m (entry :: rest)) : Stored m rest :=
  fun note hnote => h note (List.mem_cons_of_mem _ hnote)

theorem sound_step (sound : Sound m) {entry : Except StoreError Note}
    {rest : List (Except StoreError Note)} (stored : Stored m (entry :: rest)) (b : Batch) :
    Sound (b.step store r nt entry m).2 ∧ Stored (b.step store r nt entry m).2 rest := by
  rcases step_cases b r nt entry m with h | ⟨note, rfl, -, h⟩
  · rw [h]
    exact ⟨sound, stored.tail⟩
  · rw [h]
    refine ⟨sound_writePlan sound (isFit_fit r nt note m) (stored note (List.mem_cons_self ..)), ?_⟩
    intro note' hnote'
    rw [notes_writePlan]
    exact stored.tail note' hnote'

theorem sound_run {entries : List (Except StoreError Note)} (sound : Sound m)
    (stored : Stored m entries) (b : Batch) :
    Sound (b.run store r nt cancel entries m).2 := by
  induction entries generalizing b m with
  | nil => exact sound
  | cons entry rest ih =>
    rw [run_cons]
    split
    · exact sound
    obtain ⟨sound', stored'⟩ := sound_step r nt sound stored b
    exact ih sound' stored' _

/-- A step keeps cards under their own ids, be the note listed rightly or not. -/
theorem keyed_step (keyed : m.Keyed) (b : Batch) (entry : Except StoreError Note) :
    (b.step store r nt entry m).2.Keyed := by
  rcases step_cases b r nt entry m with h | ⟨note, -, -, h⟩
  · rwa [h]
  · rw [h]
    exact keyed_writePlan keyed (isFit_fit r nt note m)

theorem keyed_run {entries : List (Except StoreError Note)} (keyed : m.Keyed) (b : Batch) :
    (b.run store r nt cancel entries m).2.Keyed :=
  run_invariant r nt cancel b (fun entry _ b _ keyed' => keyed_step r nt keyed' b entry) keyed

/-- A step leaves the cards of all other notes alone. -/
theorem step_other (keyed : m.Keyed) (b : Batch) {entry : Except StoreError Note} {n : NoteId}
    (hn : ∀ note, entry = .ok note → note.id ≠ n) :
    SameNote n m (b.step store r nt entry m).2 := by
  rcases step_cases b r nt entry m with h | ⟨note, hentry, -, h⟩
  · rw [h]
    exact .refl n m
  · rw [h]
    exact (isFit_fit r nt note m).sameNote keyed (Ne.symm (hn note hentry))

/-- A batch leaves the cards of a note alone that is not listed, or was made to fail. -/
theorem run_untouched {entries : List (Except StoreError Note)} {n : NoteId} (b : Batch)
    (keyed : m.Keyed) (hn : ∀ note, .ok note ∈ entries → note.id = n → n ∈ m.failing) :
    SameNote n m (b.run store r nt cancel entries m).2 := by
  induction entries generalizing b m with
  | nil => exact .refl n m
  | cons entry rest ih =>
    rw [run_cons]
    split
    · exact .refl n m
    have hstep : SameNote n m (b.step store r nt entry m).2 := by
      by_cases hentry : ∃ note, entry = .ok note ∧ note.id = n
      · obtain ⟨note, rfl, rfl⟩ := hentry
        have hfailing := hn note (List.mem_cons_self ..) rfl
        rw [step_eq r nt keyed b note, if_neg fun h => h.1 hfailing]
        exact .refl _ m
      · exact step_other r nt keyed b fun note heq hid => hentry ⟨note, heq, hid⟩
    refine hstep.trans (ih _ (keyed_step r nt keyed b entry) fun note hnote hid => ?_)
    rw [step_same r nt (·.failing) failing_writePlan]
    exact hn note (List.mem_cons_of_mem _ hnote) hid

/-- A batch leaves the cards of a note alone that is not listed. -/
theorem run_other {entries : List (Except StoreError Note)} {n : NoteId} (b : Batch)
    (keyed : m.Keyed) (hn : ∀ note, .ok note ∈ entries → note.id ≠ n) :
    SameNote n m (b.run store r nt cancel entries m).2 :=
  run_untouched r nt cancel b keyed fun note hnote hid => absurd hid (hn note hnote)

/-- The cards of a note show drafts: there is one for each identity among them, with the content of the
first draft of that identity. -/
def Shows (m : Memory) (n : NoteId) (drafts : List CardDraft) : Prop :=
  ((m.cardsOf n).map Card.draft).Perm (firstOfEach CardDraft.identity drafts)

theorem FittedNote.shows {m' : Memory} {n : NoteId} {r : Regenerator} {nt : NoteType} {note : Note}
    {first : CardId} (keyed : m.Keyed) (h : FittedNote n (r.fit nt note (m.cardsOf n) first) m m') :
    m'.Shows n (nt.drafts note.fields) :=
  (h.cards.map Card.draft).trans (Reconcile.outcome_drafts _ _ _ _ (nodup_ids_cardsOf keyed n))

/-- The ids of the listed notes. -/
def idsOf (entries : List (Except StoreError Note)) : List NoteId :=
  (entries.filterMap (·.toOption)).map (·.id)

theorem mem_idsOf {entries : List (Except StoreError Note)} {note : Note}
    (h : .ok note ∈ entries) : note.id ∈ idsOf entries :=
  List.mem_map_of_mem (List.mem_filterMap.mpr ⟨_, h, rfl⟩)

theorem nodup_idsOf_rest {entry : Except StoreError Note} {rest : List (Except StoreError Note)}
    (distinct : (idsOf (entry :: rest)).Nodup) : (idsOf rest).Nodup := by
  cases entry with
  | error _ => exact distinct
  | ok _ => exact (List.nodup_cons.mp distinct).2

theorem not_mem_rest {note : Note} {rest : List (Except StoreError Note)}
    (distinct : (idsOf (.ok note :: rest)).Nodup) :
    ∀ note', .ok note' ∈ rest → note'.id ≠ note.id := by
  intro note' hnote' heq
  have hmem := mem_idsOf hnote'
  rw [heq] at hmem
  exact (List.nodup_cons.mp distinct).1 hmem

/-- **A batch fits the cards of each listed note** to it, with new ids above all ids of the note's
cards. It leaves them alone only if the note was made to fail or is of another type, or if the batch
may be cancelled. -/
theorem run_listed {entries : List (Except StoreError Note)} {note : Note} (b : Batch)
    (keyed : m.Keyed) (distinct : (idsOf entries).Nodup) (hnote : .ok note ∈ entries) :
    (SameNote note.id m (b.run store r nt cancel entries m).2 ∧
      (note.id ∈ m.failing ∨ nt.name ≠ note.typeName ∨ ∃ progress, cancel progress = true)) ∨
    (nt.name = note.typeName ∧ ∃ first,
      (∀ c ∈ m.cardsOf note.id, c.id < (IdSequence.startingAt first).next) ∧
      FittedNote note.id (r.fit nt note (m.cardsOf note.id) first) m
        (b.run store r nt cancel entries m).2) := by
  induction entries generalizing b m with
  | nil => cases hnote
  | cons entry rest ih =>
    rw [run_cons]
    split
    · next hcancel => exact Or.inl ⟨.refl _ m, Or.inr (Or.inr ⟨_, hcancel⟩)⟩
    have keyed' := keyed_step r nt keyed b entry
    rcases List.mem_cons.mp hnote with rfl | hmem
    · -- the step of the note itself; the rest of the batch does not touch the note again
      have hafter := run_other r nt cancel (b.step store r nt (.ok note) m).1 keyed'
        (not_mem_rest distinct)
      have hstep := step_eq r nt keyed b note
      split at hstep
      · next hfits =>
        refine Or.inr ⟨hfits.2, Store.nextId m.cards, cardsOf_below keyed _, ?_⟩
        refine FittedNote.trans_same ?_ hafter
        rw [hstep]
        exact (isFit_fit r nt note m).fittedNote keyed
      · next hfits =>
        rw [hstep] at hafter ⊢
        refine Or.inl ⟨hafter, ?_⟩
        by_cases hfailing : note.id ∈ m.failing
        · exact Or.inl hfailing
        · exact Or.inr (Or.inl fun hname => hfits ⟨hfailing, hname⟩)
    · -- the step of another note; the cards are still those of the beginning
      have hother : ∀ note', entry = .ok note' → note'.id ≠ note.id := by
        rintro note' rfl
        exact (not_mem_rest distinct note hmem).symm
      have hstep := step_other r nt keyed b hother
      have hfailing : (b.step store r nt entry m).2.failing = m.failing :=
        step_same r nt (·.failing) failing_writePlan entry b m
      rcases ih (b.step store r nt entry m).1 keyed' (nodup_idsOf_rest distinct) hmem with
        ⟨hsame, hwhy⟩ | ⟨hname, first, habove, hfits⟩
      · rw [hfailing] at hwhy
        exact Or.inl ⟨hstep.trans hsame, hwhy⟩
      · rw [hstep.cards] at habove hfits
        exact Or.inr ⟨hname, first, habove, hstep.trans_fitted hfits⟩

/-- A batch that no one cancels fits the cards of each listed note of its type that was not made to
fail. -/
theorem run_fitted {entries : List (Except StoreError Note)} {note : Note} (b : Batch)
    (keyed : m.Keyed) (distinct : (idsOf entries).Nodup)
    (uncancelled : ∀ progress, cancel progress = false) (hnote : .ok note ∈ entries)
    (hn : note.id ∉ m.failing) (named : nt.name = note.typeName) :
    ∃ first, (∀ c ∈ m.cardsOf note.id, c.id < (IdSequence.startingAt first).next) ∧
      FittedNote note.id (r.fit nt note (m.cardsOf note.id) first) m
        (b.run store r nt cancel entries m).2 := by
  rcases run_listed r nt cancel b keyed distinct hnote with
    ⟨-, hfailing | hname | ⟨progress, hcancel⟩⟩ | ⟨-, fitted⟩
  · exact absurd hfailing hn
  · exact absurd named hname
  · rw [uncancelled] at hcancel
    cases hcancel
  · exact fitted

/-! ## The listed notes -/

/-- The notes of a type are listed once each. -/
theorem nodup_idsOf_listed (filed : Filed m) (typeName : String) :
    (idsOf (m.listed typeName)).Nodup := by
  rw [idsOf, listed]
  refine List.pairwise_map.mpr (List.pairwise_filterMap.mpr (List.pairwise_map.mpr ?_))
  -- the ids of the listed notes are the keys that they are kept under, and these ascend
  refine (m.notes.ascending.filter _).imp_of_mem fun {e e'} he he' hlt note hnote note' hnote' => ?_
  have hkey : ∀ {e : NoteId × StoredNote} {note : Note}, e ∈ m.notes.entries →
      (readNote e.1 e.2).toOption = some note → note.id = e.1 := by
    rintro ⟨id, stored⟩ note he hread
    cases stored with
    | unreadable _ _ => cases hread
    | readable note' =>
      cases hread
      exact filed.notes id note (SortedMap.get?_eq_some_iff.mpr he)
  rw [hkey (List.mem_filter.mp he).1 hnote, hkey (List.mem_filter.mp he').1 hnote']
  exact Int.ne_of_lt (Int.compare_eq_lt.mp hlt)

theorem mem_listed_iff (filed : Filed m) {typeName : String} {note : Note} :
    .ok note ∈ m.listed typeName ↔
      note.typeName = typeName ∧ m.notes.get? note.id = some (.readable note) := by
  constructor
  · intro h
    obtain ⟨htype, id, hget⟩ := mem_listed h
    exact ⟨htype, filed.notes id note hget ▸ hget⟩
  · rintro ⟨htype, hget⟩
    refine List.mem_map.mpr ⟨(note.id, .readable note), List.mem_filter.mpr ⟨?_, ?_⟩, rfl⟩
    · exact SortedMap.get?_eq_some_iff.mp hget
    · exact beq_iff_eq.mpr htype

theorem stored_listed (filed : Filed m) (typeName : String) : Stored m (m.listed typeName) :=
  fun _ hnote => SortedMap.contains_iff.mpr ⟨_, ((mem_listed_iff filed).mp hnote).2⟩

end Memory

end Flashcard
