import Flashcard.Proofs.Atomic

/-!
# Requests as a whole

A request to a collection reads, makes its change, and then at most does what cannot fail any more.
So it is atomic in every store whose single changes are, and in which a change leaves what the rest of
the request needs.

- `Store.Transactional`: what a store has to be in a state, and to which requests.
- `Collection.atomic_addNote` and its like: the requests, one by one.

## Main statements

- `Store.Transactional.atomic`: every such request but the making of a collection is atomic.
- `Store.Transactional.granted_editNoteType`: an edit whose note type was saved is granted.
-/

namespace Flashcard

open Collection

variable {σ : Type} {store : Store σ} {s t : σ}

/-! ## Requests one by one -/

namespace Collection

theorem atomic_addNote (writes : ∀ note plan, Atomic (store.applyNotePlan note plan) s)
    (scheduler : Scheduler) (new : NewNote) : Atomic (addNote store scheduler new) s := by
  rw [addNote_eq]
  refine .bind_idle (.of_question _) fun (note, plan) _ => ?_
  exact .bind_pure (.of_write (writes note plan)) _

theorem atomic_updateNote (writes : ∀ note plan, Atomic (store.applyNotePlan note plan) s)
    (scheduler : Scheduler) (change : NoteChange) : Atomic (updateNote store scheduler change) s := by
  rw [updateNote_eq]
  refine .bind_idle (.of_question _) fun (note, plan) _ => ?_
  exact .bind_pure (.of_write (writes note plan)) _

theorem atomic_updateCardFlags (writes : ∀ c, Atomic (store.updateCard c) s)
    (records : ∀ usn t, Unfailing (store.recordUsn usn) t) (id : CardId)
    (update : CardFlagsUpdate) : Atomic (updateCardFlags store id update) s := by
  rw [updateCardFlags_eq]
  refine .bind_idle (.of_demand _) fun _ _ => ?_
  refine .bind_idle (.of_question _) fun c _ => ?_
  refine .bind_idle (.of_ask _) fun usn _ => ?_
  refine .bind (.of_write (writes _)) fun _ t _ => ?_
  exact .bind (.of_write (records usn t)) fun _ _ _ => .of_pure _

theorem atomic_answerCard (writes : ∀ c, Atomic (store.updateCard c) s)
    {scheduler : Scheduler} {answer : Answer}
    (reviews : ∀ {c c' : Card} {next : SchedulingState} {review : Review} {t : σ},
      loadCard store answer.cardId s = .ok c →
      scheduler.answer? c.scheduling answer.rating answer.now = some (next, review) →
      store.updateCard c' s = .ok () t → c'.id = c.id →
        Unfailing (store.addReview answer.cardId { review with timeTakenMs := answer.timeTakenMs }) t)
    (records : ∀ usn t, Unfailing (store.recordUsn usn) t) :
    Atomic (answerCard store scheduler answer) s := by
  rw [answerCard_eq]
  refine .bind_idle (.of_question _) fun c hload => ?_
  cases answered : scheduler.answer? c.scheduling answer.rating answer.now with
  | none => exact (Idle.of_throw _).atomic s
  | some _ =>
    refine .bind_idle (.of_ask _) fun usn _ => ?_
    refine .bind (.of_write (writes _)) fun _ t hupdate => ?_
    -- the card is still there, so the review of it can be added
    have hreview := reviews (done_question.mp hload).1 answered (done_write.mp hupdate) rfl
    refine .bind (.of_write hreview) fun _ t' _ => ?_
    exact .bind (.of_write (records usn t')) fun _ _ _ => .of_pure _

/-- What an edit does once its note type is saved cannot fail, if the cards can be made anew. -/
theorem unfailing_editedCards {scheduler : Scheduler} {typeName : String} {edit : NoteTypeEdit}
    {options : RegenerationOptions}
    (again : edit.affectsCards = true → Unfailing (regenerate store scheduler typeName options) t) :
    Unfailing (if edit.affectsCards then regenerate store scheduler typeName options
      else pure { noteType := typeName }) t := by
  by_cases affects : edit.affectsCards = true
  · rw [if_pos affects]
    exact again affects
  · rw [if_neg affects]
    exact .of_pure _

end Collection

/-! ## Every request -/

/-- A state in which a store makes each change as a whole, and after a change has what the rest of a
request needs, if the request is an able one. -/
structure Store.Transactional (store : Store σ) (able : Operation → Prop) (s : σ) : Prop where
  ensureDeck : ∀ name, Atomic (store.ensureDeck name) s
  applyNotePlan : ∀ note plan, Atomic (store.applyNotePlan note plan) s
  saveNoteTypeWithNotes : ∀ nt notes, Atomic (store.saveNoteTypeWithNotes nt notes) s
  updateCard : ∀ c, Atomic (store.updateCard c) s
  /-- A card that was found and changed can get the review of its answer. -/
  addReview : ∀ {scheduler : Scheduler} {answer : Answer} {c c' : Card} {next : SchedulingState}
    {review : Review} {t : σ}, able (.answerCard scheduler answer) →
    loadCard store answer.cardId s = .ok c →
    scheduler.answer? c.scheduling answer.rating answer.now = some (next, review) →
    store.updateCard c' s = .ok () t → c'.id = c.id →
      Unfailing (store.addReview answer.cardId { review with timeTakenMs := answer.timeTakenMs }) t
  recordUsn : ∀ usn t, Unfailing (store.recordUsn usn) t
  /-- The cards of a note type whose edit was saved can be made anew. -/
  regenerate : ∀ {scheduler : Scheduler} {typeName : String} {edit : NoteTypeEdit}
    {options : RegenerationOptions} {edited : NoteType} {notes : List Note} {t : σ},
    able (.editNoteType scheduler typeName edit options) →
    planEdit store typeName edit s = .ok (edited, notes) →
    store.saveNoteTypeWithNotes edited notes s = .ok () t → edit.affectsCards = true →
      Unfailing (Collection.regenerate store scheduler typeName options) t

namespace Store.Transactional

variable {able : Operation → Prop} (h : store.Transactional able s)

include h

theorem atomic_editNoteType {scheduler : Scheduler} {typeName : String} {edit : NoteTypeEdit}
    {options : RegenerationOptions} (isAble : able (.editNoteType scheduler typeName edit options)) :
    Atomic (editNoteType store scheduler typeName edit options) s := by
  rw [editNoteType_eq]
  refine .bind_idle (.of_question _) fun (edited, notes) hplan => ?_
  refine .bind (.of_write (h.saveNoteTypeWithNotes edited notes)) fun _ t hsave => ?_
  exact unfailing_editedCards fun affects =>
    h.regenerate isAble (done_question.mp hplan).1 (done_write.mp hsave) affects

/-- An edit whose note type was saved is granted. -/
theorem granted_editNoteType {scheduler : Scheduler} {typeName : String} {edit : NoteTypeEdit}
    {options : RegenerationOptions} {edited : NoteType} {notes : List Note}
    (isAble : able (.editNoteType scheduler typeName edit options))
    (hplan : planEdit store typeName edit s = .ok (edited, notes))
    (hsave : store.saveNoteTypeWithNotes edited notes s = .ok () t) :
    ∃ report t', editNoteType store scheduler typeName edit options s = .ok report t' := by
  -- the plan and the save are known to go well, and nothing behind them fails
  have hwhole : Unfailing (editNoteType store scheduler typeName edit options) s := by
    rw [editNoteType_eq]
    refine .bind (.of_done (done_question.mpr ⟨hplan, rfl⟩)) fun planned s' hasked => ?_
    obtain ⟨hplanned, rfl⟩ := done_question.mp hasked
    obtain rfl := Except.ok.inj (hplan.symm.trans hplanned)
    refine .bind (.of_done (done_write.mpr hsave)) fun _ t' hsaved => ?_
    exact unfailing_editedCards fun affects =>
      h.regenerate isAble hplan (done_write.mp hsaved) affects
  exact hwhole.exists_ok

/-- **Every able request is atomic**, but for the making of a collection, which is many changes. -/
theorem atomic {op : Operation} (hop : ∀ deckName, op ≠ .seed deckName) (isAble : able op) :
    Atomic (op.work store) s := by
  cases op with
  | seed deckName => exact absurd rfl (hop deckName)
  | ensureDeck name => exact (Atomic.of_write (h.ensureDeck name)).map _
  | addNote scheduler new => exact (atomic_addNote h.applyNotePlan scheduler new).map _
  | updateNote scheduler change => exact (atomic_updateNote h.applyNotePlan scheduler change).map _
  | editNoteType scheduler typeName edit options =>
    exact (h.atomic_editNoteType isAble).map _
  | regenerate scheduler typeName options =>
    exact (atomic_regenerate store scheduler typeName options s).map _
  | answerCard scheduler answer =>
    exact (atomic_answerCard h.updateCard (h.addReview isAble) h.recordUsn).map _
  | updateCardFlags id update =>
    exact (atomic_updateCardFlags h.updateCard h.recordUsn id update).map _
  | deleteCards ids => exact (unfailing_deleteCards store ids s).atomic.map _
  | findEmptyCards _ | checkDuplicate _ _ | dueCards _ _ _ | deckStats _ _ =>
    exact ((Idle.of_question _).atomic s).map _

end Store.Transactional

end Flashcard
