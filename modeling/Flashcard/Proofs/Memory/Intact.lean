import Flashcard.Proofs.Memory.Sound

/-!
# Intact stores

Operations alone never leave a note that cannot be read or whose type is missing.

- `Memory.Intact`: the invariant.
- `Memory.Intact.change`, `Memory.Intact.after`: each single change and each operation keeps it.
- `Memory.intact_afterAll`: all stores that operations lead to.
-/

namespace Flashcard

namespace Memory

open Collection

/-- What is true of every store that operations alone lead to. -/
structure Intact (m : Memory) : Prop where
  sound : Sound m
  calm : m.failing = []
  /-- All notes can be read, and their types are there. -/
  typed : ∀ id stored, m.notes.get? id = some stored →
    ∃ note nt, stored = .readable note ∧ m.noteTypes.get? note.typeName = some nt

variable {m m' : Memory}

theorem intact_empty : Intact {} := ⟨sound_empty, rfl, fun _ _ h => nomatch h⟩

/-- The type of a note that is kept. -/
theorem Intact.noteType (h : Intact m) {id : NoteId} {note : Note}
    (hget : m.notes.get? id = some (.readable note)) :
    ∃ nt, m.noteTypes.get? note.typeName = some nt := by
  obtain ⟨note', nt, heq, hnt⟩ := h.typed id _ hget
  cases heq
  exact ⟨nt, hnt⟩

/-! ## Written notes -/

/-- What is kept under an id once notes are written: one of the notes, or what was kept before. -/
theorem get?_foldl_putNote (notes : List Note) (kept : SortedMap NoteId StoredNote) (id : NoteId) :
    (∃ note ∈ notes, note.id = id ∧
        (notes.foldl (fun kept note => kept.insert note.id (.readable note)) kept).get? id =
          some (.readable note)) ∨
      (notes.foldl (fun kept note => kept.insert note.id (.readable note)) kept).get? id =
        kept.get? id := by
  induction notes generalizing kept with
  | nil => exact Or.inr rfl
  | cons note rest ih =>
    -- the rest writes a note under the id, or this note is written there, or the kept one stays
    rw [List.foldl_cons]
    rcases ih (kept.insert note.id (.readable note)) with ⟨note', hnote', hid, hget⟩ | hget
    · exact Or.inl ⟨note', List.mem_cons_of_mem _ hnote', hid, hget⟩
    · rw [hget, SortedMap.get?_insert]
      by_cases hid : id = note.id
      · exact Or.inl ⟨note, List.mem_cons_self .., hid.symm, if_pos hid⟩
      · exact Or.inr (if_neg hid)

theorem get?_writeNote {note : Note} {plan : ReconcilePlan} {id : NoteId} :
    (m.writeNote note plan).notes.get? id =
      if id = note.id then some (.readable note) else m.notes.get? id := by
  rw [notes_writeNote, SortedMap.get?_insert]

/-- Where an edited note type is written, the listed notes of the type get other fields, and all other
notes stay as they are. -/
theorem get?_writeNoteType (edit : NoteTypeEdit) (typeName : String) (usn : Usn) (nt : NoteType)
    (id : NoteId) :
    (∃ old fields, .ok old ∈ m.listed typeName ∧ old.id = id ∧
        (m.writeNoteType nt (editedNotes edit (m.listed typeName) usn)).notes.get? id =
          some (.readable { old with fields, usn })) ∨
      (m.writeNoteType nt (editedNotes edit (m.listed typeName) usn)).notes.get? id =
        m.notes.get? id := by
  rw [writeNoteType_eq]
  refine (get?_foldl_putNote _ m.notes id).imp_left ?_
  rintro ⟨note, hnote, hid, hget⟩
  obtain ⟨old, fields, hold, rfl⟩ := mem_editedNotes hnote
  exact ⟨old, fields, hold, hid, hget⟩

/-! ## Every change -/

/-- Nothing changes for the notes where no note is written and no type goes. -/
theorem Intact.of_notes (h : Intact m) (sound' : Sound m') (hfailing : m'.failing = m.failing)
    (hnotes : m'.notes = m.notes)
    (htypes : ∀ name nt, m.noteTypes.get? name = some nt →
      ∃ nt', m'.noteTypes.get? name = some nt') : Intact m' := by
  refine ⟨sound', hfailing.trans h.calm, ?_⟩
  intro id stored hget
  obtain ⟨note, nt, hstored, hnt⟩ := h.typed id stored (hnotes ▸ hget)
  obtain ⟨nt', hnt'⟩ := htypes _ _ hnt
  exact ⟨note, nt', hstored, hnt'⟩

theorem Intact.same_notes (h : Intact m) (sound' : Sound m') (hfailing : m'.failing = m.failing)
    (hnotes : m'.notes = m.notes) (htypes : m'.noteTypes = m.noteTypes) : Intact m' := by
  refine h.of_notes sound' hfailing hnotes fun name nt hnt => ⟨nt, ?_⟩
  rw [htypes]
  exact hnt

theorem exists_get?_insert {types : SortedMap String NoteType} {nt nt₀ : NoteType} {name : String}
    (h : types.get? name = some nt₀) : ∃ nt', (types.insert nt.name nt).get? name = some nt' := by
  rw [SortedMap.get?_insert]
  split
  · exact ⟨nt, rfl⟩
  · exact ⟨nt₀, h⟩

theorem Intact.writeNote (h : Intact m) {note : Note} {plan : ReconcilePlan}
    (sound' : Sound (m.writeNote note plan)) {nt : NoteType}
    (typed : m.noteTypes.get? note.typeName = some nt) : Intact (m.writeNote note plan) := by
  refine ⟨sound', (failing_writeNote note plan m).trans h.calm, ?_⟩
  intro id stored hget
  rw [noteTypes_writeNote]
  rw [get?_writeNote] at hget
  split at hget
  · exact ⟨note, nt, (Option.some.inj hget).symm, typed⟩
  · exact h.typed id stored hget

/-- **Intactness is kept** by each single change. -/
theorem Intact.change {op : Operation} (hchange : Change op m m') (h : Intact m) : Intact m' := by
  have sound' := h.sound.change hchange
  cases hchange with
  | stockType _ _ => exact h.of_notes sound' rfl rfl fun _ _ hnt => exists_get?_insert hnt
  | stockDeck _ | newDeck _ => exact h.same_notes sound' rfl rfl rfl
  | newNote typed _ _ note_eq =>
    subst note_eq
    exact h.writeNote sound' typed
  | noteChange _ typed _ note_eq =>
    subst note_eq
    exact h.writeNote sound' typed
  | @edit _ typeName edit _ nt edited _ typed edited_eq =>
    -- the edited type is saved under the name of the old one, so its notes still find it
    have hname : edited.name = typeName :=
      (NoteType.name_edit edited_eq).trans (h.sound.types _ _ typed).1
    refine ⟨sound', (failing_writeNoteType ..).trans h.calm, ?_⟩
    intro id stored hget
    rw [noteTypes_writeNoteType]
    rcases get?_writeNoteType edit typeName (m.usn + 1) edited id with
      ⟨old, fields, hold, -, hnote⟩ | hkept
    · refine ⟨_, edited, (Option.some.inj (hnote.symm.trans hget)).symm, ?_⟩
      rw [(mem_listed hold).1, hname, SortedMap.get?_insert, if_pos rfl]
    · rw [hkept] at hget
      obtain ⟨note, nt₀, hstored, hnt₀⟩ := h.typed id stored hget
      obtain ⟨nt', hnt'⟩ := exists_get?_insert hnt₀
      exact ⟨note, nt', hstored, hnt'⟩
  | editedCards refit | newCards refit =>
    cases refit
    exact h.same_notes sound' (failing_writePlan ..) (notes_writePlan ..) (noteTypes_writePlan ..)
  | answer _ _ | flags _ | deletion _ => exact h.same_notes sound' rfl rfl rfl

/-- **Intactness is kept** by each operation. -/
theorem Intact.after (h : Intact m) (op : Operation) : Intact (op.after store m) :=
  after_invariant (fun _ _ => Intact.change) h

/-- Operations lead to intact stores. -/
theorem intact_afterAll (ops : List Operation) : Intact (Operation.afterAll store ops {}) :=
  Operation.afterAll_invariant (fun op _ _ h => h.after op) intact_empty

end Memory

end Flashcard
