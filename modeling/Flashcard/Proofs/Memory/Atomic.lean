import Flashcard.Proofs.Memory.Change
import Flashcard.Proofs.Transactional

/-!
# Atomic work in memory

The store in memory checks a change as a whole before it writes anything, whatever it holds and
whichever notes were made to fail. So it is left as it was by each request that fails.

- `Memory.atomic_checked`: an update behind a check.
- `Memory.transactional`: what requests rely on.
-/

namespace Flashcard

namespace Memory

open Collection

variable {m : Memory}

/-- An update behind a check writes only if it is granted. -/
theorem atomic_checked {α : Type} {update : Update Memory α} {check : Except StoreError Unit}
    {a : α} {after : Memory} (h : update m = m.checked check a after) : Atomic update m := by
  intro e t hfail
  rw [h] at hfail
  cases check with
  | ok _ => cases hfail
  | error _ =>
    cases hfail
    rfl

/-- To make sure of a deck never fails. -/
theorem unfailing_ensureDeck (name : String) (m : Memory) : Unfailing (store.ensureDeck name) m := by
  have hlook : Store.look (store.deckNamed? name) m =
      .ok ((m.decks.values.find? (·.name == name)).map (·.id)) m := rfl
  unfold Store.ensureDeck
  refine .bind (.of_done hlook) fun found t _ => ?_
  cases found with
  | some id => exact .of_pure id
  | none => exact .bind (.of_done rfl) fun deck _ _ => .of_pure deck.id

/-- Making the cards of a type anew does not fail if there is the type. -/
theorem unfailing_regenerate {typeName : String} {nt : NoteType}
    (typed : m.noteTypes.get? typeName = some nt) (scheduler : Scheduler)
    (options : RegenerationOptions) :
    Unfailing (regenerate store scheduler typeName options) m :=
  .of_done (regenerate_eq_ok (loadNoteType_eq_ok.mpr (congrArg Except.ok typed)) rfl rfl rfl)

/-- A note type whose edit was saved is still there, so its cards can be made anew. -/
theorem unfailing_regenerate_edited {m' : Memory} {typeName : String} {edit : NoteTypeEdit}
    {edited : NoteType} {notes : List Note}
    (hplan : planEdit store typeName edit m = .ok (edited, notes))
    (hsave : store.saveNoteTypeWithNotes edited notes m = .ok () m') (scheduler : Scheduler)
    (options : RegenerationOptions) :
    Unfailing (regenerate store scheduler typeName options) m' := by
  obtain ⟨nt, typed, -⟩ := of_planEdit hplan
  rw [saveNoteTypeWithNotes_eq] at hsave
  obtain ⟨-, -, rfl⟩ := done_checked.mp hsave
  -- whatever the edited type is called, the old name leads to a type
  have hcontains : (m.writeNoteType edited notes).noteTypes.contains typeName = true := by
    rw [noteTypes_writeNoteType, SortedMap.contains_insert]
    exact .inr (SortedMap.contains_iff.mpr ⟨nt, Except.ok.inj typed⟩)
  obtain ⟨nt', typed'⟩ := SortedMap.contains_iff.mp hcontains
  exact unfailing_regenerate typed' scheduler options

/-- The store in memory makes each change as a whole, in every state. -/
theorem transactional (m : Memory) : store.Transactional (fun _ => True) m where
  ensureDeck name := (unfailing_ensureDeck name m).atomic
  applyNotePlan note plan := atomic_checked (applyNotePlan_eq note plan m)
  saveNoteTypeWithNotes nt notes := atomic_checked (saveNoteTypeWithNotes_eq nt notes m)
  updateCard c := atomic_checked (updateCard_eq c m)
  addReview _ _ _ _ _ := .of_done rfl
  recordUsn _ _ := .of_done rfl
  regenerate _ hplan hsave _ := unfailing_regenerate_edited hplan hsave _ _

end Memory

end Flashcard
