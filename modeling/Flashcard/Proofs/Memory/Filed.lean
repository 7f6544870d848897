import Flashcard.Proofs.Calls
import Flashcard.Proofs.Memory.Change

/-!
# Filed stores

Whatever is done to a store in memory, it keeps everything that can be read under its own id or name.
Nothing else can be said of it: its updates may be called with any arguments, so that there may be
cards of notes that are not there, several cards of one identity, and types with templates of one
name.

- `Memory.Filed`: what is true of every store in memory.
- `Memory.Act`, `Memory.made`: the stores that updates and planted faults lead to.
- `Memory.filed_made`: all of them are filed.
-/

namespace Flashcard

namespace Memory

open Collection

/-- Everything that can be read is kept under its own id or name. -/
structure Filed (m : Memory) : Prop where
  cards : m.Keyed
  notes : ∀ id note, m.notes.get? id = some (.readable note) → note.id = id
  types : ∀ name nt, m.noteTypes.get? name = some nt → nt.name = name

variable {m m' : Memory}

theorem filed_empty : Filed {} where
  cards _ _ h := nomatch h
  notes _ _ h := nomatch h
  types _ _ h := nomatch h

namespace Filed

/-- It does not depend on decks, reviews, marks and planted failures. -/
theorem congr (h : Filed m) (hnoteTypes : m'.noteTypes = m.noteTypes) (hnotes : m'.notes = m.notes)
    (hcards : m'.cards = m.cards) : Filed m' := by
  obtain ⟨_, _, _, _, _, _, _⟩ := m'
  cases hnoteTypes
  cases hnotes
  cases hcards
  exact ⟨h.cards, h.notes, h.types⟩

theorem putNoteType (h : Filed m) (nt : NoteType) : Filed (m.putNoteType nt) where
  cards := h.cards
  notes := h.notes
  types name nt' hget := by
    rcases SortedMap.get?_insert_eq_some_iff.mp hget with ⟨rfl, rfl⟩ | ⟨-, hget⟩
    · rfl
    · exact h.types name nt' hget

theorem putNote (h : Filed m) (note : Note) : Filed (m.putNote note) where
  cards := h.cards
  notes id note' hget := by
    rcases SortedMap.get?_insert_eq_some_iff.mp hget with ⟨rfl, heq⟩ | ⟨-, hget⟩
    · cases heq
      rfl
    · exact h.notes id note' hget
  types := h.types

theorem spoilNote (h : Filed m) (id : NoteId) (typeName reason : String) :
    Filed (m.spoilNote id typeName reason) where
  cards := h.cards
  notes id' note hget := by
    rcases SortedMap.get?_insert_eq_some_iff.mp hget with ⟨-, heq⟩ | ⟨-, hget⟩
    · cases heq
    · exact h.notes id' note hget
  types := h.types

theorem putCard (h : Filed m) (c : Card) : Filed (m.putCard c) where
  cards id c' hget := by
    rcases SortedMap.get?_insert_eq_some_iff.mp hget with ⟨rfl, rfl⟩ | ⟨-, hget⟩
    · rfl
    · exact h.cards id c' hget
  notes := h.notes
  types := h.types

theorem dropCard (h : Filed m) (id : CardId) : Filed (m.dropCard id) where
  cards id' c hget := h.cards id' c (SortedMap.get?_erase_eq_some_iff.mp hget).2
  notes := h.notes
  types := h.types

/-- What each step keeps is kept along a list of steps. -/
theorem foldl {α : Type} {step : Memory → α → Memory} (hstep : ∀ {m} a, Filed m → Filed (step m a))
    (l : List α) (h : Filed m) : Filed (l.foldl step m) := by
  induction l generalizing m with
  | nil => exact h
  | cons a rest ih => exact ih (hstep a h)

theorem writePlan (h : Filed m) (plan : ReconcilePlan) : Filed (m.writePlan plan) := by
  have hleft : Filed (plan.toDelete.foldl Memory.dropCard
      ((plan.toCreate ++ plan.toUpdate).foldl Memory.putCard m)) :=
    foldl (fun id h => h.dropCard id) _ (foldl (fun c h => h.putCard c) _ h)
  unfold Memory.writePlan
  dsimp only
  split
  · exact hleft
  · exact hleft.congr rfl rfl rfl

theorem writeNoteType (h : Filed m) (nt : NoteType) (notes : List Note) :
    Filed (m.writeNoteType nt notes) := by
  refine putNoteType (foldl (fun note h => ?_) notes h) nt
  exact (h.putNote note).congr rfl rfl rfl

/-- Behind a check there is the store as it was, or the one that the update makes. -/
theorem checked (h : Filed m) {α : Type} {update : Update Memory α}
    {check : Except StoreError Unit} {a : α} {after : Memory}
    (heq : update m = m.checked check a after) (hafter : Filed after) : Filed (left update m) := by
  rcases left_checked heq with hleft | hleft
  · rwa [hleft]
  · rwa [hleft]

/-- **Filing is kept** by each call of the store. -/
theorem call (h : Filed m) (call : Store.Call) : Filed (call.after store m) := by
  have hcreate : ∀ note, store.createNote note m =
      m.checked (m.checkNote note.id) () (m.putNote note) := fun _ => rfl
  have hupdate : ∀ note, store.updateNote note m =
      m.checked (m.checkStored note.id) () (m.putNote note) := fun _ => rfl
  cases call with
  | saveNoteType nt => exact h.putNoteType nt
  | createNote note => exact h.checked (hcreate note) (h.putNote note)
  | updateNote note => exact h.checked (hupdate note) (h.putNote note)
  | createCard c => exact h.putCard c
  | updateCard c => exact h.checked (updateCard_eq c m) (h.putCard c)
  | deleteCard id => exact h.checked (deleteCard_eq id m) (h.dropCard id)
  | addReview _ _ | createDeck _ | recordUsn _ => exact h.congr rfl rfl rfl
  | applyPlan plan => exact h.checked (applyPlan_eq plan m) (h.writePlan plan)
  | applyNotePlan note plan =>
    refine h.checked (applyNotePlan_eq note plan m) ?_
    exact ((h.putNote note).writePlan plan).congr rfl rfl rfl
  | saveNoteTypeWithNotes nt notes =>
    exact h.checked (saveNoteTypeWithNotes_eq nt notes m) (h.writeNoteType nt notes)

end Filed

/-! ## All stores in memory -/

/-- What can be done to a store in memory: its updates, and planted faults. -/
inductive Act where
  | update (call : Store.Call)
  | failNote (id : NoteId)
  | spoilNote (id : NoteId) (typeName reason : String)

/-- The store after an act. -/
def Act.after : Act → Memory → Memory
  | update call, m => call.after store m
  | failNote id, m => m.failNote id
  | spoilNote id typeName reason, m => m.spoilNote id typeName reason

/-- The store that acts lead to from the empty one. -/
def made (acts : List Act) : Memory := acts.foldl (fun m act => act.after m) {}

theorem Filed.act (h : Filed m) (act : Act) : Filed (act.after m) := by
  cases act with
  | update call => exact h.call call
  | failNote id => exact h.congr rfl rfl rfl
  | spoilNote id typeName reason => exact h.spoilNote id typeName reason

/-- **Every store in memory is filed.** -/
theorem filed_made (acts : List Act) : Filed (made acts) :=
  Filed.foldl (fun act h => h.act act) acts filed_empty

end Memory

end Flashcard
