import Flashcard.NoteType.Stock
import Flashcard.Proofs.Memory.Atomic
import Flashcard.Proofs.Tables.Transactional

/-!
# All or nothing

A request to a collection that is refused leaves it exactly as it was, in memory and in tables. For an
edit of a note type this says that it is refused before the edited type is saved, or not at all. In
tables an answer can stop half way if it cannot be recorded in numbers, and an edit if there is no
update sequence number left behind it.

- `Store.AllOrNothing`: what this means for a store in a state, and for some requests.

## Main statements

- `Store.Transactional.allOrNothing`: it follows from what requests rely on.
- `Store.all_or_nothing`: it holds in memory, whatever is kept there and whichever notes were made to
  fail, and in all tables that calls lead to.
-/

namespace Flashcard

open Collection

namespace Store

variable {σ : Type} {store : Store σ} {able : Operation → Prop} {s : σ}

/-- In a state of a store, able requests are carried out as a whole or not at all. -/
structure AllOrNothing (store : Store σ) (able : Operation → Prop) (s : σ) : Prop where
  /-- A request that is refused leaves the state as it was. The making of a collection is left aside:
  it is several changes, and can stop between two of them. -/
  refused : ∀ (op : Operation) (e : CollectionError), (∀ deckName, op ≠ .seed deckName) → able op →
    op.answer store s = .error e → op.after store s = s
  /-- An edit whose note type could be saved is granted. -/
  granted : ∀ (scheduler : Scheduler) (typeName : String) (edit : NoteTypeEdit)
    (options : RegenerationOptions) (edited : NoteType) (notes : List Note) (t : σ),
    able (.editNoteType scheduler typeName edit options) →
    planEdit store typeName edit s = .ok (edited, notes) →
    store.saveNoteTypeWithNotes edited notes s = .ok () t →
      ∃ report, (Operation.editNoteType scheduler typeName edit options).answer store s =
        .ok (.report report)

/-- Where changes are made as a whole and nothing fails behind them, so are requests. -/
theorem Transactional.allOrNothing (h : store.Transactional able s) : store.AllOrNothing able s where
  refused _ _ hop isAble hrefused := (h.atomic hop isAble).left_eq hrefused
  granted scheduler typeName edit options edited notes t isAble hplan hsave := by
    obtain ⟨report, t', hdone⟩ := h.granted_editNoteType isAble hplan hsave
    refine ⟨report, ?_⟩
    show outcome (Reply.report <$> editNoteType store scheduler typeName edit options) s = _
    rw [outcome_map, (done_iff.mp hdone).1]
    rfl

/-- **Requests are all or nothing**: in memory in every state, with any planted faults, and in tables
in every state that calls of the store lead to, where answers are recorded in numbers and there are
update sequence numbers left (`Tables.Able`). -/
theorem all_or_nothing :
    (∀ m : Memory, Memory.store.AllOrNothing (fun _ => True) m) ∧
      ∀ calls : List Call, Tables.store.AllOrNothing (Tables.store.afterCalls calls {}).Able
        (Tables.store.afterCalls calls {}) := by
  refine ⟨fun m => (Memory.transactional m).allOrNothing, fun calls => ?_⟩
  exact (Tables.transactional (Tables.sortInRange_afterCalls calls)
    (Tables.fetchable_afterCalls calls)).allOrNothing

/-- A note of the stock type for one card. -/
def bare : Note where
  id := 1
  typeName := "Basic"
  fields := .empty
  tags := []
  createdAt := ⟨0, 0⟩
  modifiedAt := ⟨0, 0⟩
  usn := 1

/-- A collection in memory with a note that was made to fail, as was the one after it. -/
def barred : Memory where
  noteTypes := SortedMap.empty.insert "Basic" NoteType.basic
  notes := SortedMap.empty.insert 1 (.readable bare)
  decks := SortedMap.empty.insert 1 ⟨1, "Default"⟩
  failing := [1, 2]

/-- What makes tables with a note that has no cards yet. -/
def bareCalls : List Call := [.saveNoteType NoteType.basic, .createNote bare]

/-- A new note is refused in memory because it was made to fail, and leaves nothing. An edit is granted
there, though the one note of its type fails, and it is granted in tables, where the deck for the new card
is missing. And a change of the note is rolled back in tables, when its new card turns out to have no
deck. -/
theorem all_or_nothing_faults :
    let new : NewNote := ⟨"Basic", 1, .ofList [("Front", "F")], [], ⟨0, 0⟩⟩
    let edit : Operation := .editNoteType {} "Basic"
      (.updateTemplate "Card 1" { question := some "{{Front}}" }) ⟨1, ⟨0, 0⟩, neverCancelled⟩
    let change : NoteChange := ⟨1, .ofList [("Front", "F")], none, 99, ⟨0, 0⟩⟩
    let tables := Tables.store.afterCalls bareCalls {}
    ((Operation.addNote {} new).answer Memory.store barred =
        .error (.store (.backend (.injected 2))) ∧
      (Operation.addNote {} new).after Memory.store barred = barred) ∧
    (∃ report, edit.answer Memory.store barred = .ok (.report report)) ∧
    (∃ report, edit.answer Tables.store tables = .ok (.report report)) ∧
    (Operation.updateNote {} change).answer Tables.store tables =
        .error (.store (.backend .dangling)) ∧
      (Operation.updateNote {} change).after Tables.store tables = tables := by
  intro new edit change tables
  have hnew : (Operation.addNote {} new).answer Memory.store barred =
      .error (.store (.backend (.injected 2))) := by decide +kernel
  have hchange : (Operation.updateNote {} change).answer Tables.store tables =
      .error (.store (.backend .dangling)) := by decide +kernel
  let edited : NoteType := { NoteType.basic with
    templates := [{ name := "Card 1", question := "{{Front}}", answer := "A: {{Back}}" }] }
  refine ⟨⟨hnew, (all_or_nothing.1 barred).refused _ _ nofun trivial hnew⟩, ?_, ?_, hchange,
    (all_or_nothing.2 bareCalls).refused _ _ nofun trivial hchange⟩
  · exact (all_or_nothing.1 barred).granted _ _ _ _ edited [] _ trivial (by decide +kernel) rfl
  · exact (all_or_nothing.2 bareCalls).granted _ _ _ _ edited [] _
      (fun _ => Tables.leavesUsn_of_lt (by decide +kernel)) (by decide +kernel) rfl

/-- What makes tables with a card that was never answered. -/
def cardCalls : List Call := [.saveNoteType NoteType.basic, .createDeck "Default", .createNote bare,
  .createCard {
    id := 1
    noteId := 1
    deckId := 1
    templateName := "Card 1"
    ordinal := 0
    front := "Q: "
    back := "A: "
    scheduling := ({} : Scheduler).newCard ⟨0, 0⟩
    usn := 1 }]

/-- Requests to tables that stop half way. An answer is refused for its record, which is not in numbers,
but the card is changed; and behind the last update sequence number an edit is refused, but the edited
type is saved. -/
theorem all_or_nothing_fails :
    let answer : Operation := .answerCard (Sm2.scheduler { graduatingInterval := 0.0 / 0.0 })
      ⟨1, .good, ⟨0, 0⟩, none⟩
    let answered := Tables.store.afterCalls cardCalls {}
    let edit : Operation := .editNoteType {} "Basic"
      (.updateTemplate "Card 1" { question := some "{{Front}}" }) ⟨1, ⟨0, 0⟩, neverCancelled⟩
    let last := Tables.store.afterCalls [.saveNoteType NoteType.basic, .recordUsn lastId] {}
    (answer.answer Tables.store answered =
        .error (.store (.backend (.missing "revlog.interval_after"))) ∧
      answer.after Tables.store answered ≠ answered) ∧
    edit.answer Tables.store last = .error (.store (.backend .usnExhausted)) ∧
      edit.after Tables.store last ≠ last := by
  decide +kernel

end Store

end Flashcard
