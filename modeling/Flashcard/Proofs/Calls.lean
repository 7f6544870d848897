import Flashcard.Proofs.Operation

/-!
# Calls of a store

A store may be changed by others than the collection: any of its updates may be called, with any
arguments and in any order. The states that such calls lead to are all states that a store can be
in.

- `Store.Call`: the updates of a store, with their arguments.
- `Store.afterCalls`: the state that calls leave, granted or refused.
- `Store.afterCalls_invariant`: what each call keeps holds after any calls.
-/

namespace Flashcard

namespace Store

open Collection

variable {σ : Type}

/-- The updates of a store, with their arguments. -/
inductive Call where
  | saveNoteType (nt : NoteType)
  | createNote (note : Note)
  | updateNote (note : Note)
  | createCard (c : Card)
  | updateCard (c : Card)
  | deleteCard (id : CardId)
  | addReview (id : CardId) (review : Review)
  | createDeck (name : String)
  | recordUsn (usn : Usn)
  | applyPlan (plan : ReconcilePlan)
  | applyNotePlan (note : Note) (plan : ReconcilePlan)
  | saveNoteTypeWithNotes (nt : NoteType) (notes : List Note)

/-- The state that a call leaves, granted or refused. -/
def Call.after (store : Store σ) : Call → σ → σ
  | saveNoteType nt => left (store.saveNoteType nt)
  | createNote note => left (store.createNote note)
  | updateNote note => left (store.updateNote note)
  | createCard c => left (store.createCard c)
  | updateCard c => left (store.updateCard c)
  | deleteCard id => left (store.deleteCard id)
  | addReview id review => left (store.addReview id review)
  | createDeck name => left (store.createDeck name)
  | recordUsn usn => left (store.recordUsn usn)
  | applyPlan plan => left (store.applyPlan plan)
  | applyNotePlan note plan => left (store.applyNotePlan note plan)
  | saveNoteTypeWithNotes nt notes => left (store.saveNoteTypeWithNotes nt notes)

/-- The cards that a call writes. -/
def Call.cards : Call → List Card
  | createCard c | updateCard c => [c]
  | applyPlan plan | applyNotePlan _ plan => plan.toCreate ++ plan.toUpdate
  | _ => []

/-- The state that calls leave, one after the other. -/
def afterCalls (store : Store σ) (calls : List Call) (s : σ) : σ :=
  calls.foldl (fun s call => call.after store s) s

/-- What each call keeps holds after any calls. -/
theorem afterCalls_invariant {store : Store σ} {p : σ → Prop} {calls : List Call}
    (step : ∀ call ∈ calls, ∀ s, p s → p (Call.after store call s)) {s : σ} (h : p s) :
    p (store.afterCalls calls s) := by
  induction calls generalizing s with
  | nil => exact h
  | cons call rest ih =>
    exact ih (fun call hcall => step call (List.mem_cons_of_mem _ hcall))
      (step call (List.mem_cons_self ..) s h)

end Store

end Flashcard
