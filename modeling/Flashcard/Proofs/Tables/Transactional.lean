import Flashcard.Proofs.Command.Invariant

/-!
# Requests to tables as a whole

Two requests make a change and then go on: an answer, and an edit of a note type. The first needs a
record in numbers, which is up to the scheduler. The second needs the notes of the type listed and one
more update sequence number, for its cards are made anew.

- `Tables.Able`: the requests to which the tables have what they need.
- `Tables.EditSaved`: what is left of an edit that does not get the rest of what it needs.

## Main statements

- `Tables.fetchable_saved`, `Tables.usn_saved`: what the saving of an edited note type leaves for the
  rest of the edit.
- `Tables.transactional`: such requests are carried out as a whole.
- `Tables.failed_editNoteType`: what an edit leaves that fails.
- `Tables.fetchable_afterCalls`: calls of the store leave notes that can be fetched.
-/

namespace Flashcard

namespace Tables

open Collection

variable {t t' : Tables} {typeName : String} {edit : NoteTypeEdit} {edited : NoteType}
  {notes : List Note}

/-! ## What is left of a save -/

/-- The notes that an edit changes are of its type. -/
theorem typeName_of_planEdit (hplan : planEdit store typeName edit t = .ok (edited, notes))
    {note : Note} (hnote : note ∈ notes) :
    note.typeName = typeName ∧
      ∃ row, t.notes.get? note.id = some row ∧ row.typeName = typeName := by
  obtain ⟨-, -, -, rfl | ⟨entries, usn, hentries, -, rfl⟩⟩ := of_planEdit hplan
  · cases hnote
  · obtain ⟨old, _, hold, rfl⟩ := mem_editedNotes hnote
    obtain ⟨-, rfl⟩ := notesOfType_eq_ok.mp hentries
    obtain ⟨row, hrow, hdecode⟩ := List.mem_map.mp hold
    obtain ⟨hmem, hname⟩ := List.mem_filter.mp hrow
    have hname : row.2.typeName = typeName := beq_iff_eq.mp hname
    obtain ⟨hid, htype, -⟩ := NoteRow.decode_eq_ok hdecode
    exact ⟨htype.trans hname, row.2, hid ▸ SortedMap.get?_eq_some_iff.mpr hmem, hname⟩

/-- The notes of a type can still be fetched after an edit of it was saved. -/
theorem fetchable_saved (hplan : planEdit store typeName edit t = .ok (edited, notes))
    (hsave : store.saveNoteTypeWithNotes edited notes t = .ok () t')
    (fetchable : t.Fetchable typeName) : t'.Fetchable typeName := by
  obtain ⟨_, s, hnotes, hwrite⟩ := done_bind.mp (done_transaction.mp hsave)
  -- the notes that are still to be written are of the type, too
  let p : Tables → Prop := fun s => s.Fetchable typeName ∧
    ∀ note ∈ notes, ∀ row, s.notes.get? note.id = some row → row.typeName = typeName
  have hstep : ∀ note ∈ notes, Keeps p (do Tables.updateNote note; raiseUsn note.usn) := by
    refine fun note hnote => Keeps.bind ?_ fun _ => fun _ h => h
    refine keeps_of_atomic (atomic_updateNoteRow note) fun s _ s' hs hdone => ?_
    obtain ⟨row, hget, rfl⟩ := updateNote_eq_ok.mp hdone
    have hfit : row.misfits = [] := hs.1 note.id row hget (hs.2 note hnote row hget)
    constructor
    · intro n row' hget' hname
      rcases SortedMap.get?_insert_eq_some_iff.mp hget' with ⟨-, rfl⟩ | ⟨-, hget'⟩
      · exact NoteRow.misfits_update hfit note
      · exact hs.1 n row' hget' hname
    · intro other hother row' hget'
      rcases SortedMap.get?_insert_eq_some_iff.mp hget' with ⟨-, rfl⟩ | ⟨-, hget'⟩
      · exact (typeName_of_planEdit hplan hnote).1
      · exact hs.2 other hother row' hget'
  have hstart : p t := by
    refine ⟨fetchable, fun note hnote row hget => ?_⟩
    obtain ⟨-, row', hget', hname⟩ := typeName_of_planEdit hplan hnote
    exact Option.some.inj (hget.symm.trans hget') ▸ hname
  have hend := Keeps.forM hstep t hstart
  rw [(done_iff.mp hnotes).2] at hend
  cases hwrite
  exact hend.1

/-- The save of an edit raises the update sequence number by at most one. -/
theorem usn_saved (hplan : planEdit store typeName edit t = .ok (edited, notes))
    (hsave : store.saveNoteTypeWithNotes edited notes t = .ok () t') : t'.usn ≤ t.usn + 1 := by
  obtain ⟨_, s, hnotes, hwrite⟩ := done_bind.mp (done_transaction.mp hsave)
  have hstep : ∀ note ∈ notes,
      Keeps (fun s => s.usn ≤ t.usn + 1) (do Tables.updateNote note; raiseUsn note.usn) := by
    intro note hnote
    have hmark : note.usn = t.usn + 1 := (unusedUsn_eq_ok.mp (usn_of_planEdit hplan hnote)).2
    refine Keeps.bind ?_ fun _ s hs => ?_
    · refine keeps_of_atomic (atomic_updateNoteRow note) fun s _ s' hs hdone => ?_
      obtain ⟨_, -, rfl⟩ := updateNote_eq_ok.mp hdone
      exact hs
    · exact max_le hs hmark.le
  have hend := Keeps.forM hstep t (Int.le_add_one (Int.le_refl t.usn))
  rw [(done_iff.mp hnotes).2] at hend
  cases hwrite
  exact hend

/-- A note type whose edit was saved has its cards made anew. -/
theorem unfailing_regenerate_edited (inRange : t.SortInRange) (fetchable : t.Fetchable typeName)
    (hplan : planEdit store typeName edit t = .ok (edited, notes))
    (hsave : store.saveNoteTypeWithNotes edited notes t = .ok () t') (hnext : t'.usn < lastId)
    (affects : edit.affectsCards = true) (scheduler : Scheduler) (options : RegenerationOptions) :
    Unfailing (regenerate store scheduler typeName options) t' :=
  unfailing_regenerate (noteType?_edited inRange hplan hsave affects)
    (notesOfType_eq_ok.mpr ⟨fetchable_saved hplan hsave fetchable, rfl⟩) hnext scheduler options

/-! ## Requests -/

/-- Whether there is another update sequence number behind an edit that was saved. -/
def LeavesUsn (typeName : String) (edit : NoteTypeEdit) (t : Tables) : Prop :=
  ∀ edited notes t', planEdit store typeName edit t = .ok (edited, notes) →
    store.saveNoteTypeWithNotes edited notes t = .ok () t' → t'.usn < lastId

/-- Two numbers are always enough. -/
theorem leavesUsn_of_lt (h : t.usn + 1 < lastId) : LeavesUsn typeName edit t :=
  fun _ _ _ hplan hsave => lt_of_le_of_lt (usn_saved hplan hsave) h

/-- Whether the tables have what a request needs behind its first change: a record in numbers of an
answer, and another update sequence number for the cards of an edited type. -/
def Able (t : Tables) : Operation → Prop
  | .answerCard scheduler _ => scheduler.Numeric
  | .editNoteType _ typeName edit _ => edit.affectsCards = true → LeavesUsn typeName edit t
  | _ => True

/-- **Tables carry able requests out as a whole**, if their sort positions are in range and all their
notes can be fetched. -/
theorem transactional (inRange : t.SortInRange) (fetchable : ∀ typeName, t.Fetchable typeName) :
    store.Transactional t.Able t where
  ensureDeck name := by
    obtain ⟨id, hdone⟩ := ensureDeck_eq name t
    exact (Unfailing.of_done hdone).atomic
  applyNotePlan _ _ := atomic_transaction _ t
  saveNoteTypeWithNotes _ _ := atomic_transaction _ t
  updateCard c := atomic_updateCard c t
  addReview isAble hload answered hdone hid :=
    unfailing_addReview hload hdone hid
      ((isAble answered (finite_of_card? (loadCard_eq_ok.mp hload))).timed _)
  recordUsn := unfailing_raiseUsn
  regenerate isAble hplan hsave affects :=
    unfailing_regenerate_edited inRange (fetchable _) hplan hsave
      (isAble affects _ _ _ hplan hsave) affects _ _

theorem cardless_fetchable : Cardless fun t => ∀ typeName, t.Fetchable typeName :=
  fun _ _ _ _ h => h

theorem keepsWrites_fetchable :
    KeepsWrites (fun _ => True) fun t => ∀ typeName, t.Fetchable typeName where
  writeNoteType _ _ h := h
  insertNote note := by
    refine keeps_of_atomic (atomic_insertNote note) fun t _ t' ht hdone typeName n row hget hname => ?_
    obtain ⟨-, rfl⟩ := insertNote_eq_ok.mp hdone
    rcases SortedMap.get?_insert_eq_some_iff.mp hget with ⟨-, rfl⟩ | ⟨-, hget⟩
    · rfl
    · exact ht typeName n row hget hname
  replaceNote note := by
    intro t ht typeName n row hget hname
    rcases SortedMap.get?_insert_eq_some_iff.mp hget with ⟨-, rfl⟩ | ⟨-, hget⟩
    · rfl
    · exact ht typeName n row hget hname
  updateNote note := by
    refine keeps_of_atomic (atomic_updateNoteRow note) fun t _ t' ht hdone typeName n row hget hname => ?_
    obtain ⟨old, hold, rfl⟩ := updateNote_eq_ok.mp hdone
    rcases SortedMap.get?_insert_eq_some_iff.mp hget with ⟨-, rfl⟩ | ⟨-, hget⟩
    · exact NoteRow.misfits_update (ht old.typeName note.id old hold rfl) note
    · exact ht typeName n row hget hname
  insertCard c _ := cardless_fetchable.insertCard c
  updateCard c _ := cardless_fetchable.updateCard c
  deleteCard := cardless_fetchable.deleteCard
  insertReview := cardless_fetchable.insertReview
  insertDeck name := by
    refine keeps_of_atomic (atomic_insertDeck name) fun t _ t' ht hdone => ?_
    obtain ⟨-, -, rfl⟩ := insertDeck_eq_ok.mp hdone
    exact ht
  raiseUsn := cardless_fetchable.raiseUsn

/-- **All notes can be fetched** in every collection that calls of the store lead to. -/
theorem fetchable_afterCalls (calls : List Store.Call) (typeName : String) :
    (store.afterCalls calls {}).Fetchable typeName :=
  keepsWrites_fetchable.afterCalls calls (fun _ _ _ _ => trivial) (fun _ _ _ h => nomatch h) typeName

end Tables

end Flashcard
