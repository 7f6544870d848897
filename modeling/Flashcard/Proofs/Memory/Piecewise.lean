import Flashcard.Proofs.Memory.Batch
import Flashcard.Proofs.Memory.Intact

/-!
# Compound updates, whole and piece by piece

The store in memory checks its compound updates as a whole and then writes them. A store can also be
used through its simple updates alone, which check each piece on its own, and write up to the first
that is refused. On what the operations of a collection ask for nothing is refused either way, so
that nobody can tell the two from each other.

- `Memory.applyPlan_whole`, `Memory.applyPlan_pieces` and their like: compound updates that succeed.
- `Memory.run_piecewise`: batches.
- `Memory.work_piecewise`: each operation.

## Main statements

- `Memory.piecewise_agrees`: any operations, one after another, from the empty store.
-/

namespace Flashcard

namespace Memory

open Collection

variable {m : Memory}

/-! ## Whole updates -/

/-- No note is made to fail. -/
theorem checkNote_of_calm (calm : m.failing = []) (n : NoteId) : m.checkNote n = .ok () := by
  refine checkNote_eq_ok.mpr ?_
  rw [calm]
  exact List.not_mem_nil

/-- A note can be created. -/
theorem createNote_whole (calm : m.failing = []) (note : Note) :
    store.createNote note m = .ok () (m.putNote note) := by
  show m.checked (m.checkNote note.id) () (m.putNote note) = _
  rw [checkNote_of_calm calm]
  rfl

/-- A stored note can be updated. -/
theorem updateNote_whole (calm : m.failing = []) {note : Note}
    (stored : m.notes.contains note.id = true) :
    store.updateNote note m = .ok () (m.putNote note) := by
  have hcheck : m.checkStored note.id = .ok () := by
    rw [checkStored, checkNote_of_calm calm]
    exact if_pos stored
  show m.checked (m.checkStored note.id) () (m.putNote note) = _
  rw [hcheck]
  rfl

section Plan

variable {n : NoteId} {drafts : List CardDraft} {plan : ReconcilePlan}

/-- A plan is carried out for a note that was not made to fail. -/
theorem applyPlan_whole (keyed : m.Keyed) (fit : m.IsFit n drafts plan) (hn : n ∉ m.failing) :
    store.applyPlan plan m = .ok () (m.writePlan plan) := by
  rw [applyPlan_eq, fit.checkPlan keyed hn]
  rfl

/-- A fitting plan can be applied with its note. -/
theorem applyNotePlan_whole (h : Intact m) {note : Note} (fit : m.IsFit note.id drafts plan) :
    store.applyNotePlan note plan m = .ok () (m.writeNote note plan) := by
  have hn : note.id ∉ m.failing := checkNote_eq_ok.mp (checkNote_of_calm h.calm note.id)
  rw [applyNotePlan_eq, checkNote_of_calm h.calm, fit.checkPlan h.sound.keyed hn]
  rfl

end Plan

/-- An edited note type is written with notes that are there. -/
theorem saveNoteTypeWithNotes_whole (calm : m.failing = []) (nt : NoteType) {notes : List Note}
    (stored : ∀ note ∈ notes, m.notes.contains note.id = true) :
    store.saveNoteTypeWithNotes nt notes m = .ok () (m.writeNoteType nt notes) := by
  have hcheck : (notes.forM fun note => m.checkStored note.id) = .ok () := by
    refine forM_eq_ok fun note hnote => ?_
    rw [checkStored, checkNote_of_calm calm]
    exact if_pos (stored note hnote)
  rw [saveNoteTypeWithNotes_eq, hcheck]
  rfl

/-! ## Piece by piece -/

/-- Cards are created one after the other. -/
theorem forM_createCard (cards : List Card) (m : Memory) :
    cards.forM store.createCard m = .ok () (cards.foldl putCard m) := by
  refine forM_along id (fun _ _ => True) ?_ trivial
  intro m c rest _
  exact ⟨rfl, trivial⟩

/-- Stored cards are updated one after the other. -/
theorem forM_updateCard {cards : List Card}
    (found : ∀ c ∈ cards, m.cards.contains c.id = true) :
    cards.forM store.updateCard m = .ok () (cards.foldl putCard m) := by
  refine forM_along id (fun m cards => ∀ c ∈ cards, m.cards.contains c.id = true) ?_ found
  intro m c rest h
  constructor
  · rw [id, updateCard_eq, checkCard, if_pos (h c (List.mem_cons_self ..))]
    rfl
  · intro c' hc'
    exact SortedMap.contains_insert.mpr (Or.inr (h c' (List.mem_cons_of_mem _ hc')))

/-- Stored cards are deleted one after the other. -/
theorem forM_deleteCard {ids : List CardId} (distinct : ids.Nodup)
    (found : ∀ id ∈ ids, m.cards.contains id = true) :
    ids.forM store.deleteCard m = .ok () (ids.foldl dropCard m) := by
  refine forM_along id
    (fun m ids => ids.Nodup ∧ ∀ id ∈ ids, m.cards.contains id = true) ?_ ⟨distinct, found⟩
  rintro m id rest ⟨distinct, found⟩
  obtain ⟨hid, hrest⟩ := List.nodup_cons.mp distinct
  refine ⟨?_, hrest, ?_⟩
  · show store.deleteCard id m = _
    rw [deleteCard_eq, checkCard, if_pos (found id (List.mem_cons_self ..))]
    rfl
  · intro id' hid'
    rw [dropCard, SortedMap.contains_erase]
    exact ⟨fun heq => hid (heq ▸ hid'), found id' (List.mem_cons_of_mem _ hid')⟩

section Plan

variable {n : NoteId} {drafts : List CardDraft} {plan : ReconcilePlan}

/-- The pieces of a fitting plan are carried out one by one, be the note made to fail or not. -/
theorem applyPlan_pieces (keyed : m.Keyed) (fit : m.IsFit n drafts plan) :
    store.piecewise.applyPlan plan m = .ok () (m.writePlan plan) := by
  have hcontains : ∀ {id}, id ∈ plan.toDelete ∨ id ∈ plan.toUpdate.map (·.id) →
      m.cards.contains id = true :=
    fun h => SortedMap.mem_keys_iff_contains.mp (fit.mem_keys_of_touched keyed h)
  have hcreate := forM_createCard plan.toCreate m
  -- the cards to change and those to delete were there before, and writing takes none away
  have hcreated : ∀ {id}, m.cards.contains id = true →
      (plan.toCreate.foldl putCard m).cards.contains id = true := contains_foldl_putCard
  have hupdate := forM_updateCard fun c hc => hcreated (hcontains (Or.inr (List.mem_map_of_mem hc)))
  have hdelete := forM_deleteCard (m := plan.toUpdate.foldl putCard (plan.toCreate.foldl putCard m))
    (fit.nodup_toDelete keyed)
    fun id hid => contains_foldl_putCard (hcreated (hcontains (Or.inl hid)))
  show Store.carryOut store.createCard store.updateCard store.deleteCard store.recordUsn plan m = _
  rw [Store.carryOut, bind_eq_of_ok hcreate, bind_eq_of_ok hupdate, bind_eq_of_ok hdelete,
    writePlan, List.foldl_append]
  cases plan.isNoop <;> rfl

/-- A fitting plan goes through piece by piece and does the same. -/
theorem applyNotePlan_pieces (h : Intact m) {note : Note} (fit : m.IsFit note.id drafts plan) :
    store.piecewise.applyNotePlan note plan m = .ok () (m.writeNote note plan) := by
  -- a plan asks for nothing but cards, and these are the same once the note is written
  have hplan : store.applyPlanPiecewise plan (m.putNote note) =
      .ok () ((m.putNote note).writePlan plan) :=
    applyPlan_pieces (m := m.putNote note) h.sound.keyed fit
  show store.applyNotePlanPiecewise note plan m = _
  unfold Store.applyNotePlanPiecewise
  cases hget : m.notes.get? note.id with
  | none =>
    have hnote : store.note? note.id m = .ok none := note?_eq_ok_none.mpr hget
    rw [bind_eq_of_ok (look_eq_ok _ hnote)]
    dsimp only
    rw [bind_eq_of_ok (createNote_whole h.calm note), bind_eq_of_ok hplan]
    rfl
  | some stored =>
    obtain ⟨old, nt, rfl, -⟩ := h.typed _ _ hget
    have hnote : store.note? note.id m = .ok (some old) := note?_eq_ok_some.mpr hget
    have hstored : m.notes.contains note.id = true := SortedMap.contains_iff.mpr ⟨_, hget⟩
    rw [bind_eq_of_ok (look_eq_ok _ hnote)]
    dsimp only
    rw [bind_eq_of_ok (updateNote_whole h.calm hstored), bind_eq_of_ok hplan]
    rfl

end Plan

/-! ### Edited note types -/

/-- Notes that are put change the notes only. -/
theorem foldl_putNote_only (notes : List Note) (m : Memory) :
    notes.foldl putNote m =
      { m with
        notes := notes.foldl (fun kept note => kept.insert note.id (.readable note)) m.notes } := by
  induction notes generalizing m with
  | nil => rfl
  | cons note rest ih => exact ih (m.putNote note)

/-- Raising a mark note by note comes to raising it to the highest mark of the notes. -/
theorem foldl_max_usn (notes : List Note) (usn : Usn) :
    notes.foldl (fun usn note => max usn note.usn) usn =
      match Store.highestUsn? notes with
      | none => usn
      | some highest => max usn highest := by
  have hmap : notes.foldl (fun usn note => max usn note.usn) usn =
      (notes.map (·.usn)).foldl max usn := List.foldl_map.symm
  rw [hmap, Store.highestUsn?]
  cases notes.map (·.usn) with
  | nil => rfl
  | cons head rest => exact List.foldl_assoc

/-- Stored notes are updated one after the other. -/
theorem forM_updateNote (calm : m.failing = []) {notes : List Note}
    (stored : ∀ note ∈ notes, m.notes.contains note.id = true) :
    notes.forM store.updateNote m = .ok () (notes.foldl putNote m) := by
  refine forM_along id
    (fun m notes => m.failing = [] ∧ ∀ note ∈ notes, m.notes.contains note.id = true) ?_
    ⟨calm, stored⟩
  rintro m note rest ⟨calm, stored⟩
  refine ⟨updateNote_whole calm (stored note (List.mem_cons_self ..)), calm, ?_⟩
  intro note' hnote'
  exact SortedMap.contains_insert.mpr (Or.inr (stored note' (List.mem_cons_of_mem _ hnote')))

/-- A note type is saved with stored notes piece by piece, and that does the same. -/
theorem saveNoteTypeWithNotes_pieces (calm : m.failing = []) (nt : NoteType) {notes : List Note}
    (stored : ∀ note ∈ notes, m.notes.contains note.id = true) :
    store.piecewise.saveNoteTypeWithNotes nt notes m = .ok () (m.writeNoteType nt notes) := by
  show store.saveNoteTypeWithNotesPiecewise nt notes m = _
  have hsave : store.saveNoteType nt (notes.foldl putNote m) =
      .ok () ((notes.foldl putNote m).putNoteType nt) := rfl
  unfold Store.saveNoteTypeWithNotesPiecewise
  rw [bind_eq_of_ok (forM_updateNote calm stored), bind_eq_of_ok hsave, writeNoteType_eq,
    foldl_max_usn, foldl_putNote_only]
  cases Store.highestUsn? notes <;> rfl

/-! ## Batches -/

section Batch

variable (r : Regenerator) (nt : NoteType)

/-- A step of a batch does the same either way, also for a note that was made to fail. -/
theorem step_piecewise (keyed : m.Keyed) (entry : Except StoreError Note) (b : Batch) :
    b.step store.piecewise r nt entry m = b.step store r nt entry m := by
  cases entry with
  | error e => rfl
  | ok note =>
    have hplan : r.plan store.piecewise nt note m = r.plan store nt note m := rfl
    unfold Batch.step
    dsimp only
    rw [hplan]
    cases hok : r.plan store nt note m with
    | error e => rfl
    | ok plan =>
      -- there is only a plan for a note whose cards can be read
      obtain ⟨-, existing, first, hcards, ⟨⟩, rfl⟩ := Regenerator.plan_eq_ok.mp hok
      obtain ⟨hcheck, rfl⟩ := cardsOfNote_eq_ok.mp hcards
      have fit := isFit_fit r nt note m
      dsimp only
      rw [applyPlan_pieces keyed fit, applyPlan_whole keyed fit (checkNote_eq_ok.mp hcheck)]

/-- **A batch does the same either way**, in what it reports and in what it leaves. -/
theorem run_piecewise (keyed : m.Keyed) (cancel : CancelSignal)
    (entries : List (Except StoreError Note)) (b : Batch) :
    b.run store.piecewise r nt cancel entries m = b.run store r nt cancel entries m := by
  induction entries generalizing b m with
  | nil => rfl
  | cons entry rest ih =>
    rw [run_cons, run_cons, step_piecewise r nt keyed entry b]
    rw [ih (keyed_step r nt keyed b entry)]

end Batch

/-- Cards are generated again alike. -/
theorem regenerate_piecewise (keyed : m.Keyed) (scheduler : Scheduler) (typeName : String)
    (options : RegenerationOptions) :
    regenerate store.piecewise scheduler typeName options m =
      regenerate store scheduler typeName options m := by
  have hload : loadNoteType store.piecewise typeName m = loadNoteType store typeName m := rfl
  cases hok : loadNoteType store typeName m with
  | error e => rw [regenerate_eq_error (hload.trans hok), regenerate_eq_error hok]
  | ok nt =>
    rw [regenerate_eq_ok (hload.trans hok) rfl rfl rfl,
      regenerate_eq_ok hok rfl rfl rfl]
    rw [run_piecewise _ nt keyed]

/-! ## Operations -/

/-- A note is added alike. -/
theorem addNote_piecewise (h : Intact m) (scheduler : Scheduler) (new : NewNote) :
    addNote store.piecewise scheduler new m = addNote store scheduler new m := by
  rw [addNote_eq, addNote_eq]
  refine bind_question_congr ?_
  rintro ⟨note, plan⟩ (hplan : planNewNote store scheduler new m = _)
  obtain ⟨nt, _, _, _, _, _, -, -, -, ⟨⟩, ⟨⟩, ⟨⟩, ⟨⟩, hnote, rfl⟩ := planNewNote_eq_ok.mp hplan
  -- the plan was made for a note without cards, and the new note has none
  have hcards : m.cardsOf note.id = [] := hnote ▸ cardsOf_nextId h.sound
  rw [← hcards]
  exact bind_write_congr (applyNotePlan_pieces h (isFit_fit _ nt note m))
    (applyNotePlan_whole h (isFit_fit _ nt note m)) rfl

/-- A note is changed alike. -/
theorem updateNote_piecewise (h : Intact m) (scheduler : Scheduler) (change : NoteChange) :
    Collection.updateNote store.piecewise scheduler change m =
      Collection.updateNote store scheduler change m := by
  rw [updateNote_eq, updateNote_eq]
  refine bind_question_congr ?_
  rintro ⟨note, plan⟩ (hplan : planNoteChange store scheduler change m = _)
  obtain ⟨old, nt, _, _, _, _, -, -, -, ⟨⟩, ⟨⟩, hcards, ⟨⟩, hnote, rfl⟩ :=
    planNoteChange_eq_ok.mp hplan
  obtain ⟨-, rfl⟩ := cardsOfNote_eq_ok.mp hcards
  have hid : old.id = note.id := hnote ▸ rfl
  rw [hid]
  exact bind_write_congr (applyNotePlan_pieces h (isFit_fit _ nt note m))
    (applyNotePlan_whole h (isFit_fit _ nt note m)) rfl

/-- A note type is edited alike. -/
theorem editNoteType_piecewise (h : Intact m) (scheduler : Scheduler) (typeName : String)
    (edit : NoteTypeEdit) (options : RegenerationOptions) :
    editNoteType store.piecewise scheduler typeName edit options m =
      editNoteType store scheduler typeName edit options m := by
  rw [editNoteType_eq, editNoteType_eq]
  refine bind_question_congr ?_
  rintro ⟨edited, notes⟩ (hplan : planEdit store typeName edit m = _)
  obtain ⟨nt, _, _, hnt, hedit, ⟨⟩, ⟨⟩, rfl⟩ :=
    (planEdit_eq_ok ⟨m.listed typeName, rfl⟩ ⟨m.usn + 1, rfl⟩).mp hplan
  have stored : ∀ note ∈ editedNotes edit (m.listed typeName) (m.usn + 1),
      m.notes.contains note.id = true := by
    intro note hnote
    obtain ⟨old, fields, hold, rfl⟩ := mem_editedNotes hnote
    exact stored_listed h.sound.filed typeName old hold
  have hedited : Change (.editNoteType scheduler typeName edit options) m
      (m.writeNoteType edited (editedNotes edit (m.listed typeName) (m.usn + 1))) :=
    .edit (Except.ok.inj hnt) hedit
  refine bind_write_congr (saveNoteTypeWithNotes_pieces h.calm edited stored)
    (saveNoteTypeWithNotes_whole h.calm edited stored) ?_
  cases edit.affectsCards with
  | true => exact regenerate_piecewise (h.sound.change hedited).keyed scheduler typeName options
  | false => rfl

/-- **An operation does the same either way**, in what it answers and in what it leaves. -/
theorem work_piecewise (h : Intact m) (op : Operation) :
    op.work store.piecewise m = op.work store m := by
  have map_congr : ∀ {α : Type} {work work' : Work Memory α} (f : α → Reply),
      work m = work' m → (f <$> work) m = (f <$> work') m := by
    intro α work work' f heq
    show EStateM.map f work m = EStateM.map f work' m
    unfold EStateM.map
    rw [heq]
  cases op with
  | addNote scheduler new => exact map_congr _ (addNote_piecewise h scheduler new)
  | updateNote scheduler change => exact map_congr _ (updateNote_piecewise h scheduler change)
  | editNoteType scheduler typeName edit options =>
    exact map_congr _ (editNoteType_piecewise h scheduler typeName edit options)
  | regenerate scheduler typeName options =>
    exact map_congr _ (regenerate_piecewise h.sound.keyed scheduler typeName options)
  -- all other operations make no compound updates
  | seed _ | ensureDeck _ | answerCard _ _ | updateCardFlags _ _ | deleteCards _
  | findEmptyCards _ | checkDuplicate _ _ | dueCards _ _ _ | deckStats _ _ => rfl

/-- A request leaves the same. -/
theorem after_piecewise (h : Intact m) (op : Operation) :
    op.after store.piecewise m = op.after store m := congrArg stateOf (work_piecewise h op)

/-- Requests leave the same. -/
theorem afterAll_piecewise (h : Intact m) (ops : List Operation) :
    Operation.afterAll store.piecewise ops m = Operation.afterAll store ops m := by
  induction ops generalizing m with
  | nil => rfl
  | cons op rest ih =>
    show Operation.afterAll store.piecewise rest (op.after store.piecewise m) = _
    rw [after_piecewise h op]
    exact ih (h.after op)

/-- **Nobody can tell compound updates from their pieces**: whatever operations are asked for, one
after another, of the store in memory and of the same store used through its simple updates alone,
both are in the same state before each of them, give it the same answer, and are in the same state
after it. -/
theorem piecewise_agrees (ops : List Operation) (op : Operation) :
    Operation.afterAll store.piecewise ops {} = Operation.afterAll store ops {} ∧
      op.answer store.piecewise (Operation.afterAll store.piecewise ops {}) =
        op.answer store (Operation.afterAll store ops {}) ∧
      op.after store.piecewise (Operation.afterAll store.piecewise ops {}) =
        op.after store (Operation.afterAll store ops {}) := by
  have hwork := work_piecewise (intact_afterAll ops) op
  rw [afterAll_piecewise intact_empty ops]
  exact ⟨rfl, congrArg valueOf hwork, congrArg stateOf hwork⟩

end Memory

end Flashcard
