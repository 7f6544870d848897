import Flashcard.Proofs.Memory.Piecewise
import Flashcard.Proofs.Tables.Along

/-!
# Updates of tables along with updates in memory

The compound updates of a store are transactions on tables and are checked as a whole in memory. On
a storable collection both succeed.

- `Tables.along_ensureDeck`: decks.
- `Tables.applyPlan_image`, `Tables.along_applyNotePlan`: the plan for a note.
- `Tables.saveNoteTypeWithNotes_image`: an edited note type with its notes.
-/

namespace Flashcard

namespace Tables

open Collection Memory

variable {m : Memory}

/-! ## Decks -/

/-- A deck that is to be there is found or added alike. -/
theorem along_ensureDeck (sound : Sound m) (name : String) :
    Along (Tables.store.ensureDeck name) (Memory.store.ensureDeck name) m := by
  have hnamed : ∀ pos, Tables.store.deckNamed? name (image pos m) =
      Memory.store.deckNamed? name m :=
    fun pos => congrArg Except.ok (deckNamed?_image pos sound name)
  unfold Store.ensureDeck
  refine (Along.of_look hnamed).bind ?_
  intro found hfound
  rw [outcome_look] at hfound
  rw [left_look]
  cases found with
  | some id => exact .of_pure id
  | none =>
    have habsent : ∀ deck ∈ m.decks.values, deck.name ≠ name := by
      intro deck hdeck heq
      have hfind := Option.map_eq_none_iff.mp (Except.ok.inj hfound)
      exact List.find?_eq_none.mp hfind deck hdeck (beq_iff_eq.mpr heq)
    have hmemory : Memory.store.createDeck name m =
        .ok ⟨Store.nextId m.decks, name⟩ (m.addDeck name) := rfl
    have hcreate : Along (Tables.store.createDeck name) (Memory.store.createDeck name) m :=
      .of_ok hmemory fun pos => ⟨pos, insertDeck_image pos habsent⟩
    exact hcreate.bind fun deck _ => .of_pure deck.id

/-! ## Plans -/

section Plan

variable {r : Regenerator} {nt : NoteType} {note : Note}

/-- The plan for a note that is there is carried out on tables. -/
theorem applyPlan_image (pos : String → Int) (h : Storable m)
    (noted : m.notes.contains note.id = true) (deck : m.decks.contains r.defaultDeck = true)
    (decks_eq : r.decks = m.deckIds) :
    Tables.store.applyPlan (r.fit nt note (m.cardsOf note.id) (Store.nextId m.cards))
        (image pos m) =
      .ok ()
        (image pos (m.writePlan (r.fit nt note (m.cardsOf note.id) (Store.nextId m.cards)))) :=
  transaction_eq_ok (writePlan_image pos h.intact.sound.keyed (isFit_fit r nt note m) noted
    (housed_fit h deck decks_eq))

/-- A note is written with the plan for its cards. -/
theorem along_applyNotePlan (h : Storable m) (deck : m.decks.contains r.defaultDeck = true)
    (decks_eq : r.decks = m.deckIds) :
    Along
      (Tables.store.applyNotePlan note
        (r.fit nt note (m.cardsOf note.id) (Store.nextId m.cards)))
      (Memory.store.applyNotePlan note
        (r.fit nt note (m.cardsOf note.id) (Store.nextId m.cards))) m := by
  have hmemory : Memory.store.applyNotePlan note
      (r.fit nt note (m.cardsOf note.id) (Store.nextId m.cards)) m =
        .ok () (m.writeNote note (r.fit nt note (m.cardsOf note.id) (Store.nextId m.cards))) :=
    applyNotePlan_whole h.intact (isFit_fit r nt note m)
  refine .of_ok hmemory fun pos => ⟨pos, transaction_eq_ok ?_⟩
  -- the plan asks for nothing but the cards, and these are the same once the note is written
  have hplan := writePlan_image pos (m := m.putNote note) h.intact.sound.keyed
    (isFit_fit r nt note m) (SortedMap.contains_insert.mpr (Or.inl rfl))
    (housed_fit h deck decks_eq)
  rw [bind_eq_of_ok (replaceNote_image pos note), bind_eq_of_ok hplan]
  rfl

end Plan

/-! ## Edited note types -/

/-- Notes that are there, with the times of creation of the notes to be written. -/
def Created (m : Memory) (notes : List Note) : Prop :=
  ∀ note ∈ notes, ∃ old, m.notes.get? note.id = some (.readable old) ∧
    note.createdAt = old.createdAt

/-- An edit rewrites notes that were created. -/
theorem created_editedNotes (sound : Sound m) (edit : NoteTypeEdit) (typeName : String)
    (usn : Usn) : Created m (editedNotes edit (m.listed typeName) usn) := by
  intro note hnote
  obtain ⟨old, fields, hold, rfl⟩ := mem_editedNotes hnote
  exact ⟨old, ((mem_listed_iff sound.filed).mp hold).2, rfl⟩

/-- Notes that are there are written on tables as they are in memory. -/
theorem forM_updateNote_image (pos : String → Int) {notes : List Note} (h : Created m notes) :
    (notes.forM fun note => do updateNote note; raiseUsn note.usn) (image pos m) =
      .ok () (image pos (notes.foldl (fun m note => (m.putNote note).raiseUsn note.usn) m)) := by
  refine forM_along (image pos) Created (fun m note rest h => ⟨?_, fun note' hnote' => ?_⟩) h
  · obtain ⟨old, found, created⟩ := h note (List.mem_cons_self ..)
    rw [bind_eq_of_ok (updateNote_image pos found created)]
    exact raiseUsn_image pos note.usn
  · obtain ⟨old, found, created⟩ := h note (List.mem_cons_self ..)
    obtain ⟨old', found', created'⟩ := h note' (List.mem_cons_of_mem _ hnote')
    -- a note that was written before still has its time of creation
    show ∃ old, (m.notes.insert note.id (.readable note)).get? note'.id = some (.readable old) ∧ _
    rw [SortedMap.get?_insert]
    split
    · next hid =>
      rw [hid, found] at found'
      cases found'
      exact ⟨note, rfl, created'.trans created.symm⟩
    · exact ⟨old', found', created'⟩

/-- Notes that were created are there. -/
theorem Created.stored {notes : List Note} (h : Created m notes) :
    ∀ note ∈ notes, m.notes.contains note.id = true := by
  intro note hnote
  obtain ⟨old, found, -⟩ := h note hnote
  exact SortedMap.contains_iff.mpr ⟨_, found⟩

/-- An edited note type is written on tables with its notes. -/
theorem saveNoteTypeWithNotes_image (pos : String → Int) (nt : NoteType) {notes : List Note}
    (h : Created m notes) :
    ∃ pos', Tables.store.saveNoteTypeWithNotes nt notes (image pos m) =
      .ok () (image pos' (m.writeNoteType nt notes)) := by
  obtain ⟨pos', hwrite⟩ := writeNoteType_image pos nt
    (m := notes.foldl (fun m note => (m.putNote note).raiseUsn note.usn) m)
  refine ⟨pos', transaction_eq_ok ?_⟩
  rw [bind_eq_of_ok (forM_updateNote_image pos h)]
  exact hwrite

end Tables

end Flashcard
