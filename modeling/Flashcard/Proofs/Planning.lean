import Flashcard.Collection.Cards
import Flashcard.Collection.Notes
import Flashcard.Proofs.Steps

/-!
# What work plans

Before an operation writes anything it makes a plan from what it sees of the store. Whatever the
store, the plan is for the note that was asked for, and its cards are fitted to the drafts of that
note.

- `Regenerator.fit`: the plan for the cards of a note.
- `planNewNote_eq_ok`, `planNoteChange_eq_ok`, `planEdit_eq_ok`: when there is a plan, and which.
-/

namespace Flashcard

@[simp] theorem asked_eq_ok {α : Type} {x : Except StoreError α} {a : α} :
    Collection.asked x = .ok a ↔ x = .ok a := mapError_eq_ok

theorem compile_only_eq_ok {nt : NoteType} {typeName : String} {fields : FieldMap}
    {drafts : List CardDraft} :
    compile (.only nt) typeName fields = .ok drafts ↔
      nt.name = typeName ∧ drafts = nt.drafts fields := by
  by_cases h : nt.name = typeName
  · simp [compile, NoteType.Lookup.only, h, eq_comm]
  · simp [compile, NoteType.Lookup.only, h]

namespace Collection

variable {σ : Type} {store : Store σ} {s : σ}

theorem loadNoteType_eq_ok {name : String} {nt : NoteType} :
    loadNoteType store name s = .ok nt ↔ store.noteType? name s = .ok (some nt) := by
  rw [loadNoteType, bind_eq_ok]
  constructor
  · rintro ⟨found, h, hfound⟩
    cases found with
    | none => cases hfound
    | some nt' => exact pure_eq_ok.mp hfound ▸ asked_eq_ok.mp h
  · intro h
    exact ⟨some nt, asked_eq_ok.mpr h, rfl⟩

theorem loadCard_eq_ok {id : CardId} {c : Card} :
    loadCard store id s = .ok c ↔ store.card? id s = .ok (some c) := by
  rw [loadCard, bind_eq_ok]
  constructor
  · rintro ⟨found, h, hfound⟩
    cases found with
    | none => cases hfound
    | some c' => exact pure_eq_ok.mp hfound ▸ asked_eq_ok.mp h
  · intro h
    exact ⟨some c, asked_eq_ok.mpr h, rfl⟩

/-! ## The plan for a note -/

namespace Regenerator

/-- What the cards of a note have in common. New cards go to the deck of the first card. -/
def context (r : Regenerator) (noteId : NoteId) (existing : List Card) : ReconcileContext where
  noteId := noteId
  defaultDeck := match existing with
    | [] => r.defaultDeck
    | card :: _ => card.deckId
  usn := r.usn
  now := r.now
  scheduler := r.scheduler
  decks := r.decks

/-- The deck of a new card is one that its template names, that of another card of the note, or the
default deck. -/
theorem deckFor_cases (r : Regenerator) (nt : NoteType) (noteId : NoteId) (existing : List Card)
    (templateName : String) :
    (∃ name, r.decks.get? name =
        some (Reconcile.deckFor nt (r.context noteId existing) templateName)) ∨
      (∃ c ∈ existing, c.deckId = Reconcile.deckFor nt (r.context noteId existing) templateName) ∨
      r.defaultDeck = Reconcile.deckFor nt (r.context noteId existing) templateName := by
  have hdefault : (∃ c ∈ existing, c.deckId = (r.context noteId existing).defaultDeck) ∨
      r.defaultDeck = (r.context noteId existing).defaultDeck := by
    unfold context
    cases existing with
    | nil => exact Or.inr rfl
    | cons c rest => exact Or.inl ⟨c, List.mem_cons_self .., rfl⟩
  unfold Reconcile.deckFor
  cases (nt.template? templateName).bind (·.deckName?) with
  | none => exact Or.inr hdefault
  | some name =>
    show (∃ name', r.decks.get? name' = some ((r.decks.get? name).getD _)) ∨
      (∃ c ∈ existing, c.deckId = (r.decks.get? name).getD _) ∨
      r.defaultDeck = (r.decks.get? name).getD _
    cases hget : r.decks.get? name with
    | none => exact Or.inr hdefault
    | some id => exact Or.inl ⟨name, hget⟩

/-- The plan for the cards of a note, where new cards have ids from `first` on. -/
def fit (r : Regenerator) (nt : NoteType) (note : Note) (existing : List Card) (first : CardId) :
    ReconcilePlan :=
  (reconcile existing (nt.drafts note.fields) nt (r.context note.id existing)
    (.startingAt first)).1

theorem plan_eq_ok {r : Regenerator} {nt : NoteType} {note : Note} {plan : ReconcilePlan} :
    r.plan store nt note s = .ok plan ↔
      nt.name = note.typeName ∧ ∃ existing first, store.cardsOfNote note.id s = .ok existing ∧
        store.nextCardId s = .ok first ∧ plan = r.fit nt note existing first := by
  simp only [Regenerator.plan, bind_eq_ok, mapError_eq_ok, compile_only_eq_ok, asked_eq_ok,
    pure_eq_ok]
  constructor
  · rintro ⟨_, ⟨hname, rfl⟩, existing, hcards, first, hfirst, rfl⟩
    exact ⟨hname, existing, first, hcards, hfirst, rfl⟩
  · rintro ⟨hname, existing, first, hcards, hfirst, rfl⟩
    exact ⟨_, ⟨hname, rfl⟩, existing, hcards, first, hfirst, rfl⟩

end Regenerator

/-! ## New and changed notes -/

/-- A new note with its id and mark. -/
def NewNote.note (new : NewNote) (id : NoteId) (usn : Usn) : Note where
  id := id
  typeName := new.typeName
  fields := new.fields
  tags := new.tags
  createdAt := new.now
  modifiedAt := new.now
  usn := usn

/-- A changed note with its mark. -/
def NoteChange.note (change : NoteChange) (old : Note) (usn : Usn) : Note :=
  { old with
    fields := old.fields.merge change.fields
    tags := change.tags.getD old.tags
    modifiedAt := change.now
    usn }

theorem planNewNote_eq_ok {scheduler : Scheduler} {new : NewNote} {note : Note} {plan : ReconcilePlan} :
    planNewNote store scheduler new s = .ok (note, plan) ↔
      ∃ nt deck usn id decks first,
        store.noteType? new.typeName s = .ok (some nt) ∧ nt.name = new.typeName ∧
        store.deck? new.deck s = .ok (some deck) ∧ store.nextUsn s = .ok usn ∧
        store.nextNoteId s = .ok id ∧ store.deckNames s = .ok decks ∧
        store.nextCardId s = .ok first ∧ note = new.note id usn ∧
        plan = (Regenerator.mk scheduler decks new.deck usn new.now).fit nt note [] first := by
  simp only [planNewNote, bind_eq_ok, guard_eq_ok, mapError_eq_ok, compile_only_eq_ok,
    loadNoteType_eq_ok, asked_eq_ok, pure_eq_ok, Prod.mk.injEq]
  constructor
  · rintro ⟨nt, hnt, deck, hdeck, hsome, usn, husn, id, hid, _, ⟨hname, rfl⟩, decks, hdecks,
      first, hfirst, rfl, rfl⟩
    obtain ⟨deck, rfl⟩ := Option.ne_none_iff_exists'.mp (mt Option.isNone_iff_eq_none.mpr hsome)
    exact ⟨nt, deck, usn, id, decks, first, hnt, hname, hdeck, husn, hid, hdecks, hfirst, rfl, rfl⟩
  · rintro ⟨nt, deck, usn, id, decks, first, hnt, hname, hdeck, husn, hid, hdecks, hfirst, rfl, rfl⟩
    exact ⟨nt, hnt, some deck, hdeck, Bool.false_ne_true, usn, husn, id, hid, _, ⟨hname, rfl⟩,
      decks, hdecks, first, hfirst, rfl, rfl⟩

theorem planNoteChange_eq_ok {scheduler : Scheduler} {change : NoteChange} {note : Note}
    {plan : ReconcilePlan} :
    planNoteChange store scheduler change s = .ok (note, plan) ↔
      ∃ old nt usn decks existing first,
        store.note? change.noteId s = .ok (some old) ∧
        store.noteType? old.typeName s = .ok (some nt) ∧ nt.name = old.typeName ∧
        store.nextUsn s = .ok usn ∧ store.deckNames s = .ok decks ∧
        store.cardsOfNote old.id s = .ok existing ∧ store.nextCardId s = .ok first ∧
        note = change.note old usn ∧
        plan = (Regenerator.mk scheduler decks change.defaultDeck usn change.now).fit nt note
          existing first := by
  rw [planNoteChange, bind_eq_ok]
  constructor
  · rintro ⟨found, hfound, h⟩
    cases found with
    | none => cases h
    | some old =>
      simp only [pure_bind, bind_eq_ok, Regenerator.plan_eq_ok, loadNoteType_eq_ok, asked_eq_ok,
        pure_eq_ok, Prod.mk.injEq] at h
      obtain ⟨nt, hnt, usn, husn, decks, hdecks, _, ⟨hname, existing, first, hcards, hfirst, rfl⟩,
        rfl, rfl⟩ := h
      exact ⟨old, nt, usn, decks, existing, first, asked_eq_ok.mp hfound, hnt, hname, husn, hdecks,
        hcards, hfirst, rfl, rfl⟩
  · rintro ⟨old, nt, usn, decks, existing, first, hfound, hnt, hname, husn, hdecks, hcards, hfirst,
      rfl, rfl⟩
    refine ⟨some old, asked_eq_ok.mpr hfound, ?_⟩
    simp only [pure_bind, bind_eq_ok, Regenerator.plan_eq_ok, loadNoteType_eq_ok, asked_eq_ok,
      pure_eq_ok, Prod.mk.injEq]
    exact ⟨nt, hnt, usn, husn, decks, hdecks, _, ⟨hname, existing, first, hcards, hfirst, rfl⟩,
      rfl, rfl⟩

/-! ## Edited note types -/

/-- The changed notes of an edit, from the listed notes. -/
def editedNotes (edit : NoteTypeEdit) (entries : List (Except StoreError Note)) (usn : Usn) :
    List Note :=
  match fieldChange? edit with
  | none => []
  | some change =>
    (entries.filterMap (·.toOption)).map fun note => { note with fields := change note.fields, usn }

/-- An edit changes nothing of a note but its field values. -/
theorem mem_editedNotes {edit : NoteTypeEdit} {entries : List (Except StoreError Note)} {usn : Usn}
    {note : Note} (h : note ∈ editedNotes edit entries usn) :
    ∃ old fields, .ok old ∈ entries ∧ note = { old with fields, usn } := by
  unfold editedNotes at h
  split at h
  · cases h
  · obtain ⟨old, hold, rfl⟩ := List.mem_map.mp h
    obtain ⟨entry, hentry, hread⟩ := List.mem_filterMap.mp hold
    cases entry with
    | error _ => cases hread
    | ok _ =>
      cases hread
      exact ⟨old, _, hentry, rfl⟩

/-- A planned edit is one of a note type that is there, and it changes none of the notes or those that
are listed. -/
theorem of_planEdit {typeName : String} {edit : NoteTypeEdit} {edited : NoteType}
    {notes : List Note} (h : planEdit store typeName edit s = .ok (edited, notes)) :
    ∃ nt, store.noteType? typeName s = .ok (some nt) ∧ nt.edit edit = .ok edited ∧
      (notes = [] ∨ ∃ entries usn, store.notesOfType typeName s = .ok entries ∧
        store.nextUsn s = .ok usn ∧ notes = editedNotes edit entries usn) := by
  simp only [planEdit, bind_eq_ok, loadNoteType_eq_ok, mapError_eq_ok] at h
  obtain ⟨nt, hnt, _, hedit, h⟩ := h
  cases hchange : fieldChange? edit with
  | none =>
    simp only [hchange, pure_bind, pure_eq_ok, Prod.mk.injEq] at h
    obtain ⟨rfl, rfl⟩ := h
    exact ⟨nt, hnt, hedit, .inl rfl⟩
  | some change =>
    simp only [hchange, changedNotes, bind_eq_ok, asked_eq_ok, pure_eq_ok, Prod.mk.injEq] at h
    obtain ⟨_, ⟨usn, husn, entries, hentries, rfl⟩, rfl, rfl⟩ := h
    refine ⟨nt, hnt, hedit, .inr ⟨entries, usn, hentries, husn, ?_⟩⟩
    rw [editedNotes, hchange]

/-- The notes that an edit changes are marked with the next number. -/
theorem usn_of_planEdit {typeName : String} {edit : NoteTypeEdit} {edited : NoteType}
    {notes : List Note} (h : planEdit store typeName edit s = .ok (edited, notes)) {note : Note}
    (hnote : note ∈ notes) : store.nextUsn s = .ok note.usn := by
  obtain ⟨-, -, -, rfl | ⟨entries, usn, -, husn, rfl⟩⟩ := of_planEdit h
  · cases hnote
  · obtain ⟨_, _, -, rfl⟩ := mem_editedNotes hnote
    exact husn

theorem planEdit_eq_ok {typeName : String} {edit : NoteTypeEdit} {edited : NoteType}
    {notes : List Note} (listed : ∃ entries, store.notesOfType typeName s = .ok entries)
    (marked : ∃ usn, store.nextUsn s = .ok usn) :
    planEdit store typeName edit s = .ok (edited, notes) ↔
      ∃ nt entries usn, store.noteType? typeName s = .ok (some nt) ∧ nt.edit edit = .ok edited ∧
        store.notesOfType typeName s = .ok entries ∧ store.nextUsn s = .ok usn ∧
        notes = editedNotes edit entries usn := by
  obtain ⟨entries, hentries⟩ := listed
  obtain ⟨usn, husn⟩ := marked
  simp only [planEdit, bind_eq_ok, loadNoteType_eq_ok, mapError_eq_ok, editedNotes]
  cases hchange : fieldChange? edit with
  | none =>
    simp only [pure_bind, pure_eq_ok, Prod.mk.injEq]
    constructor
    · rintro ⟨nt, hnt, _, hedit, rfl, rfl⟩
      exact ⟨nt, entries, usn, hnt, hedit, hentries, husn, rfl⟩
    · rintro ⟨nt, _, _, hnt, hedit, -, -, rfl⟩
      exact ⟨nt, hnt, edited, hedit, rfl, rfl⟩
  | some change =>
    simp only [changedNotes, bind_eq_ok, asked_eq_ok, pure_eq_ok, Prod.mk.injEq]
    constructor
    · rintro ⟨nt, hnt, _, hedit, _, ⟨usn, husn, entries, hentries, rfl⟩, rfl, rfl⟩
      exact ⟨nt, entries, usn, hnt, hedit, hentries, husn, rfl⟩
    · rintro ⟨nt, entries, usn, hnt, hedit, hentries, husn, rfl⟩
      exact ⟨nt, hnt, edited, hedit, _, ⟨usn, husn, entries, hentries, rfl⟩, rfl, rfl⟩

end Collection

end Flashcard
