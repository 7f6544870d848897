import Flashcard.Proofs.Memory.LiveCards
import Flashcard.Proofs.Memory.Report
import Flashcard.Proofs.Rename
import Flashcard.Proofs.Results

/-!
# Renaming a field

A rename of a field is carried into the note type, its templates and its notes, and the cards are made
anew after it.

- `Memory.WellTyped`: all note types are well formed, as they are after any operations.
- `Memory.Matched`: the cards of a note match its drafts, by identity.
- `Memory.Survives`: a card is still there, with its reviews.
- `Memory.Undisturbed`: a rename disturbs none of the notes of a type.

## Main statements

- `Memory.editNoteType_granted`: what an edit that is granted comes to.
- `Memory.mem_listed_rename`: the notes that the batch after a rename finds.
- `Memory.rename_keeps_cards`: a rename costs no card where it does not disturb the notes.
-/

namespace Flashcard

namespace Memory

open Collection

variable {m m' : Memory}

/-! ## Well-formed types -/

/-- All note types of a store are well formed. -/
def WellTyped (m : Memory) : Prop := ∀ name nt, m.noteTypes.get? name = some nt → nt.WellFormed

theorem wellTyped_empty : WellTyped {} := fun _ _ h => nomatch h

theorem WellTyped.insert {nt : NoteType} (h : WellTyped m) (hnt : nt.WellFormed)
    (htypes : m'.noteTypes = m.noteTypes.insert nt.name nt) : WellTyped m' := by
  intro name nt' hget
  rw [htypes] at hget
  rcases SortedMap.get?_insert_eq_some_iff.mp hget with ⟨-, rfl⟩ | ⟨-, hget⟩
  · exact hnt
  · exact h name nt' hget

/-- Each single change keeps all types well formed. -/
theorem WellTyped.change {op : Operation} (hchange : Change op m m') (h : WellTyped m) :
    WellTyped m' := by
  have of_same : m'.noteTypes = m.noteTypes → WellTyped m' := fun htypes name nt hget =>
    h name nt (htypes ▸ hget)
  cases hchange with
  | stockType stock _ => exact h.insert (NoteType.wellFormed_stock _ stock) rfl
  | edit typed edited_eq =>
    exact h.insert ((h _ _ typed).edit edited_eq) (noteTypes_writeNoteType ..)
  | newNote _ _ _ _ | noteChange _ _ _ _ => exact of_same (noteTypes_writeNote ..)
  | editedCards refit | newCards refit =>
    cases refit
    exact of_same (noteTypes_writePlan ..)
  | stockDeck _ | newDeck _ | answer _ _ | flags _ | deletion _ => exact of_same rfl

theorem WellTyped.after (h : WellTyped m) (op : Operation) : WellTyped (op.after store m) :=
  after_invariant (fun _ _ => WellTyped.change) h

/-! ## Granted edits -/

section Edit

variable {scheduler : Scheduler} {typeName : String} {edit : NoteTypeEdit}
  {options : RegenerationOptions} {report : RegenerationReport}

/-- The store with an edited type and the notes that the edit changes. -/
def saved (m : Memory) (edit : NoteTypeEdit) (edited : NoteType) : Memory :=
  m.writeNoteType edited (editedNotes edit (m.listed edited.name) (m.usn + 1))

/-- The batch after an edit. -/
def batchAfter (m : Memory) (scheduler : Scheduler) (options : RegenerationOptions) (edit : NoteTypeEdit)
    (edited : NoteType) : Batch × Memory :=
  let saved := m.saved edit edited
  Batch.run ⟨{ noteType := edited.name, notesTotal := (saved.listed edited.name).length }, {}⟩ store
    (saved.regenerator scheduler options.defaultDeck options.now) edited options.cancel
    (saved.listed edited.name) saved

theorem cardsOf_saved (m : Memory) (edit : NoteTypeEdit) (edited : NoteType) (n : NoteId) :
    (m.saved edit edited).cardsOf n = m.cardsOf n := cardsOf_writeNoteType ..

theorem get?_noteTypes_saved (m : Memory) (edit : NoteTypeEdit) (edited : NoteType) :
    (m.saved edit edited).noteTypes.get? edited.name = some edited := by
  rw [saved, noteTypes_writeNoteType, SortedMap.get?_insert_self]

/-- **An edit that affects cards**, if it is granted, writes the edited type and its notes and then
makes the cards of the listed notes anew; its report is that of the batch. -/
theorem editNoteType_granted (sound : Sound m) (affects : edit.affectsCards = true)
    (granted : (Operation.editNoteType scheduler typeName edit options).answer store m =
      .ok (.report report)) :
    ∃ nt edited, m.noteTypes.get? typeName = some nt ∧ nt.edit edit = .ok edited ∧
      edited.name = typeName ∧ report = (m.batchAfter scheduler options edit edited).1.report ∧
      (Operation.editNoteType scheduler typeName edit options).after store m =
        (m.batchAfter scheduler options edit edited).2 := by
  have hgranted : (Operation.editNoteType scheduler typeName edit options).work store m =
      .ok (.report report) ((Operation.editNoteType scheduler typeName edit options).after store m) :=
    done_iff.mpr ⟨granted, rfl⟩
  generalize (Operation.editNoteType scheduler typeName edit options).after store m = m' at hgranted ⊢
  obtain ⟨report, hdone, ⟨⟩⟩ := done_map.mp hgranted
  rw [editNoteType_eq] at hdone
  obtain ⟨⟨edited, notes⟩, _, hquestion, hdone⟩ := done_bind.mp hdone
  obtain ⟨hplan, rfl⟩ := done_question.mp hquestion
  obtain ⟨nt, _, _, hnt, hedit, ⟨⟩, ⟨⟩, rfl⟩ :=
    (planEdit_eq_ok ⟨m.listed typeName, rfl⟩ ⟨m.usn + 1, rfl⟩).mp hplan
  have typed : m.noteTypes.get? typeName = some nt := Except.ok.inj hnt
  obtain rfl : edited.name = typeName :=
    (NoteType.name_edit hedit).trans (sound.types _ _ typed).1
  obtain ⟨_, _, hsave, hbatch⟩ := done_bind.mp hdone
  obtain ⟨-, -, rfl⟩ := done_checked.mp (done_write.mp hsave)
  -- the batch finds the edited type under its name, so it begins
  have hload : loadNoteType store edited.name (m.saved edit edited) = .ok edited :=
    loadNoteType_eq_ok.mpr (congrArg Except.ok (m.get?_noteTypes_saved edit edited))
  rw [if_pos affects] at hbatch
  obtain ⟨hreport, hafter⟩ := EStateM.Result.ok.inj
    ((regenerate_eq_ok hload rfl rfl rfl).symm.trans hbatch)
  exact ⟨nt, edited, typed, hedit, rfl, hreport.symm, hafter.symm⟩

/-- The batch after an edit leaves the number of cards alone where no plan creates or deletes any. -/
theorem batchAfter_idle_iff {edited : NoteType} (intact' : Intact (m.saved edit edited))
    (scheduler : Scheduler) (uncancelled : ∀ progress, options.cancel progress = false) :
    (m.batchAfter scheduler options edit edited).1.report.cardsCreated = 0 ∧
        (m.batchAfter scheduler options edit edited).1.report.cardsDeleted = 0 ↔
      ∀ note, .ok note ∈ (m.saved edit edited).listed edited.name →
        ((m.saved edit edited).planFor ((m.saved edit edited).regenerator scheduler
          options.defaultDeck options.now) edited note).toCreate = [] ∧
        ((m.saved edit edited).planFor ((m.saved edit edited).regenerator scheduler
          options.defaultDeck options.now) edited note).toDelete = [] :=
  run_idle_iff _ _ _ _ intact'.sound.keyed (nodup_idsOf_listed intact'.sound.filed edited.name) intact'.calm
    (fun _ hnote => (mem_listed hnote).1.symm) uncancelled rfl rfl

end Edit

/-! ## The notes after an edit -/

/-- The notes of an edited type are listed with their values changed. -/
theorem mem_listed_saved (sound : Sound m) {edit : NoteTypeEdit} {edited : NoteType}
    {change : FieldMap → FieldMap} (hchange : fieldChange? edit = some change)
    (sound' : Sound (m.saved edit edited)) {note' : Note} :
    .ok note' ∈ (m.saved edit edited).listed edited.name ↔ ∃ note, .ok note ∈ m.listed edited.name ∧
      note' = { note with fields := change note.fields, usn := m.usn + 1 } := by
  have hnotes : editedNotes edit (m.listed edited.name) (m.usn + 1) =
      (readable (m.listed edited.name)).map fun note =>
        { note with fields := change note.fields, usn := m.usn + 1 } := by
    rw [editedNotes, hchange, readable]
  have hids : (editedNotes edit (m.listed edited.name) (m.usn + 1)).map (·.id) =
      idsOf (m.listed edited.name) := by
    rw [hnotes, List.map_map]
    rfl
  have distinct : ((editedNotes edit (m.listed edited.name) (m.usn + 1)).map (·.id)).Nodup :=
    hids ▸ nodup_idsOf_listed sound.filed edited.name
  have hget : (m.saved edit edited).notes.get? note'.id =
      (((editedNotes edit (m.listed edited.name) (m.usn + 1)).find? (·.id = note'.id)).map
        StoredNote.readable).or (m.notes.get? note'.id) := by
    unfold saved
    rw [writeNoteType_eq]
    exact SortedMap.get?_foldl_insert distinct m.notes note'.id
  have hmem : note' ∈ editedNotes edit (m.listed edited.name) (m.usn + 1) ↔
      ∃ note, .ok note ∈ m.listed edited.name ∧
        note' = { note with fields := change note.fields, usn := m.usn + 1 } := by
    rw [hnotes, List.mem_map]
    simp only [mem_readable, eq_comm]
  rw [mem_listed_iff sound'.filed, hget, ← hmem]
  constructor
  · rintro ⟨htype, hstored⟩
    cases hfind : (editedNotes edit (m.listed edited.name) (m.usn + 1)).find?
        (·.id = note'.id) with
    | some note =>
      rw [hfind] at hstored
      cases hstored
      exact List.mem_of_find?_eq_some hfind
    | none =>
      -- a note of the type that is kept as it was would be among the changed ones
      rw [hfind] at hstored
      have hlisted := mem_idsOf ((mem_listed_iff sound.filed).mpr ⟨htype, hstored⟩)
      rw [← hids] at hlisted
      obtain ⟨note, hnote, hid⟩ := List.mem_map.mp hlisted
      exact absurd (decide_eq_true hid) (List.find?_eq_none.mp hfind note hnote)
  · intro hnote
    have hfind := (find?_key_eq_some_iff distinct).mpr ⟨hnote, rfl⟩
    rw [hfind]
    refine ⟨?_, rfl⟩
    obtain ⟨note, hlisted, rfl⟩ := hmem.mp hnote
    exact ((mem_listed_iff sound.filed).mp hlisted).1

/-! ## Cards that survive -/

/-- The cards of a note match its drafts: there is one for each, of the same identity. -/
def Matched (m : Memory) (note : Note) : Prop :=
  ∃ nt drafts, m.noteTypes.get? note.typeName = some nt ∧
    compile (.only nt) note.typeName note.fields = .ok drafts ∧
    ((m.cardsOf note.id).map Card.identity).Perm (drafts.map CardDraft.identity)

/-- Cards that are up to date match, whatever they show. -/
theorem Live.matched {note : Note} (h : Live m note) : Matched m note := by
  obtain ⟨nt, drafts, typed, hcompile, -, hcards⟩ := h
  have hidentities := hcards.map CardDraft.identity
  rw [List.map_map] at hidentities
  exact ⟨nt, drafts, typed, hcompile, hidentities⟩

theorem Matched.mem_iff {note : Note} {nt : NoteType} (h : Matched m note)
    (typed : m.noteTypes.get? note.typeName = some nt) (i : CardIdentity) :
    i ∈ (m.cardsOf note.id).map Card.identity ↔
      i ∈ (nt.drafts note.fields).map CardDraft.identity := by
  obtain ⟨nt', drafts, htyped, hcompile, hcards⟩ := h
  obtain rfl := Option.some.inj (htyped.symm.trans typed)
  rw [hcards.mem_iff, (compile_only_eq_ok.mp hcompile).2]

/-- A card is still there, with its reviews: nothing of it has changed but what it shows, and its
mark. -/
def Survives (m m' : Memory) (c : Card) : Prop :=
  (∃ front back usn, m'.Holds { c with front, back, usn }) ∧ m'.reviewsOf c.id = m.reviewsOf c.id

theorem SameNote.survives {n : NoteId} (h : SameNote n m m') (keyed' : m'.Keyed) {c : Card}
    (hc : c ∈ m.cardsOf n) : Survives m m' c := by
  have hc' : c ∈ m'.cardsOf n := h.cards ▸ hc
  exact ⟨⟨c.front, c.back, c.usn, ((mem_cardsOf keyed').mp hc').1⟩, h.reviews c hc⟩

/-- A card that a plan does not delete survives it. -/
theorem FittedNote.survives {n : NoteId} {r : Regenerator} {nt : NoteType} {note : Note}
    {first : CardId} (h : FittedNote n (r.fit nt note (m.cardsOf n) first) m m') (keyed : m.Keyed)
    (keyed' : m'.Keyed) {c : Card} (hc : c ∈ m.cardsOf n)
    (kept : c.id ∉ (r.fit nt note (m.cardsOf n) first).toDelete) : Survives m m' c := by
  have distinct := nodup_ids_cardsOf keyed n
  refine ⟨?_, h.reviews c hc kept⟩
  obtain ⟨d, hd⟩ := (Reconcile.mem_matched_iff_not_mem_toDelete _ _ _ _ distinct hc).mp kept
  have houtcome := (Reconcile.mem_outcome _ nt (r.context note.id (m.cardsOf n))
    (.startingAt first) distinct).mpr (Or.inl ⟨(c, d), hd, rfl⟩)
  obtain ⟨front, back, usn, hsettle⟩ :=
    Reconcile.settle_eq (r.context note.id (m.cardsOf n)) c d
  rw [hsettle] at houtcome
  exact ⟨front, back, usn, ((mem_cardsOf keyed').mp (h.cards.mem_iff.mpr houtcome)).1⟩

/-- A card survives the batch after an edit if the plan for its note deletes nothing. -/
theorem survives_batchAfter (sound : Sound m) {edit : NoteTypeEdit} {edited : NoteType}
    (sound' : Sound (m.saved edit edited)) (scheduler : Scheduler) (options : RegenerationOptions) {c : Card}
    (hc : m.Holds c)
    (kept : ∀ note, .ok note ∈ (m.saved edit edited).listed edited.name → note.id = c.noteId →
      ((m.saved edit edited).planFor ((m.saved edit edited).regenerator scheduler
        options.defaultDeck options.now) edited note).toDelete = []) :
    Survives m (m.batchAfter scheduler options edit edited).2 c := by
  have keyed' : (m.batchAfter scheduler options edit edited).2.Keyed :=
    keyed_run _ _ _ sound'.keyed _
  have hmem : c ∈ (m.saved edit edited).cardsOf c.noteId := by
    rw [cardsOf_saved]
    exact (mem_cardsOf sound.keyed).mpr ⟨hc, rfl⟩
  -- saving the type and its notes touches no card and no review
  suffices hsaved : Survives (m.saved edit edited) _ c by
    have hreviews : (m.saved edit edited).reviews = m.reviews := reviews_writeNoteType ..
    exact ⟨hsaved.1, hsaved.2.trans (by rw [reviewsOf, hreviews, reviewsOf])⟩
  by_cases hlisted : ∃ note, .ok note ∈ (m.saved edit edited).listed edited.name ∧
      note.id = c.noteId
  · obtain ⟨note, hnote, hid⟩ := hlisted
    have hnil := kept note hnote hid
    rcases run_listed _ edited options.cancel _ sound'.keyed
      (nodup_idsOf_listed sound'.filed edited.name) hnote with ⟨hsame, -⟩ | ⟨-, first, -, hfits⟩
    · exact hsame.survives keyed' (hid ▸ hmem)
    · refine hfits.survives sound'.keyed keyed' (hid ▸ hmem) ?_
      intro hdel
      have hmem_nil : c.id ∈ ([] : List CardId) := by
        rw [← hnil]
        exact hdel
      cases hmem_nil
  · refine SameNote.survives ?_ keyed' hmem
    exact run_other _ _ _ _ sound'.keyed fun note hnote hid => hlisted ⟨note, hnote, hid⟩

/-! ## Renames -/

/-- A rename disturbs none of the notes of a type. -/
def Undisturbed (m : Memory) (typeName oldName newName : String) : Prop :=
  ∀ id note nt, m.notes.get? id = some (.readable note) → note.typeName = typeName →
    m.noteTypes.get? typeName = some nt → nt.Undisturbed oldName newName note.fields

section Rename

variable {nt edited : NoteType} {oldName newName : String}

/-- The plan for a note after a rename creates and deletes nothing exactly where the rename does not
disturb the note. -/
theorem planFor_rename_eq_nil_iff (r : Regenerator) (wellTyped : WellTyped m)
    (sound' : Sound (m.saved (.renameField oldName newName) edited))
    (typed : m.noteTypes.get? edited.name = some nt)
    (hedited : nt.edit (.renameField oldName newName) = .ok edited) {note : Note}
    (htype : note.typeName = edited.name) (matched : Matched m note) (usn : Usn) :
    let plan := (m.saved (.renameField oldName newName) edited).planFor r edited
      { note with fields := note.fields.rename oldName newName, usn }
    plan.toCreate = [] ∧ plan.toDelete = [] ↔ nt.Undisturbed oldName newName note.fields := by
  intro plan
  rw [planFor_eq_nil_iff r edited sound',
    ← NoteType.identities_rename_iff (wellTyped _ _ typed) hedited]
  refine forall_congr' fun i => ?_
  rw [← matched.mem_iff (htype ▸ typed), cardsOf_saved]

/-- The notes that the batch after a rename finds. -/
theorem mem_listed_rename (sound : Sound m)
    (sound' : Sound (m.saved (.renameField oldName newName) edited)) {note' : Note} :
    .ok note' ∈ (m.saved (.renameField oldName newName) edited).listed edited.name ↔
      ∃ note, m.notes.get? note.id = some (.readable note) ∧ note.typeName = edited.name ∧
        note' = { note with
          fields := note.fields.rename oldName newName
          usn := m.usn + 1 } := by
  rw [mem_listed_saved sound (fieldChange?_renameField oldName newName) sound']
  refine exists_congr fun note => ?_
  rw [mem_listed_iff sound.filed, and_comm (a := note.typeName = edited.name), and_assoc]

/-- **A rename creates and deletes no card** exactly where it disturbs no note. -/
theorem rename_counts (intact : Intact m) (wellTyped : WellTyped m)
    (typed : m.noteTypes.get? edited.name = some nt)
    (hedited : nt.edit (.renameField oldName newName) = .ok edited)
    (matched : ∀ id note, m.notes.get? id = some (.readable note) → Matched m note)
    (scheduler : Scheduler) {options : RegenerationOptions}
    (uncancelled : ∀ progress, options.cancel progress = false) :
    (m.batchAfter scheduler options (.renameField oldName newName) edited).1.report.cardsCreated = 0 ∧
        (m.batchAfter scheduler options (.renameField oldName newName) edited).1.report.cardsDeleted =
          0 ↔
      m.Undisturbed edited.name oldName newName := by
  have intact' : Intact (m.saved (.renameField oldName newName) edited) := intact.change
    (.edit typed hedited : Change (.editNoteType scheduler edited.name _ options) m _)
  have sound' := intact'.sound
  refine (batchAfter_idle_iff intact' scheduler uncancelled).trans ?_
  -- the batch goes over the notes of the type, each with its values moved
  constructor
  · intro hnil id note nt' hget htype htyped
    obtain rfl := intact.sound.notes id note hget
    obtain rfl := Option.some.inj (typed.symm.trans htyped)
    refine (planFor_rename_eq_nil_iff _ wellTyped sound' typed hedited htype
      (matched _ note hget) (m.usn + 1)).mp (hnil _ ?_)
    exact (mem_listed_rename intact.sound sound').mpr ⟨note, hget, htype, rfl⟩
  · intro undisturbed note' hnote'
    obtain ⟨note, hget, htype, rfl⟩ := (mem_listed_rename intact.sound sound').mp hnote'
    exact (planFor_rename_eq_nil_iff _ wellTyped sound' typed hedited htype
      (matched _ note hget) (m.usn + 1)).mpr (undisturbed _ note nt hget htype typed)

/-- **Every card survives a rename** that disturbs no note. -/
theorem rename_survives (intact : Intact m) (wellTyped : WellTyped m)
    (typed : m.noteTypes.get? edited.name = some nt)
    (hedited : nt.edit (.renameField oldName newName) = .ok edited)
    (matched : ∀ id note, m.notes.get? id = some (.readable note) → Matched m note)
    (scheduler : Scheduler) (options : RegenerationOptions)
    (undisturbed : m.Undisturbed edited.name oldName newName) {c : Card} (hc : m.Holds c) :
    Survives m (m.batchAfter scheduler options (.renameField oldName newName) edited).2 c := by
  have sound' : Sound (m.saved (.renameField oldName newName) edited) := intact.sound.change
    (.edit typed hedited : Change (.editNoteType scheduler edited.name _ options) m _)
  refine survives_batchAfter intact.sound sound' scheduler options hc ?_
  intro note' hnote' _
  obtain ⟨note, hget, htype, rfl⟩ := (mem_listed_rename intact.sound sound').mp hnote'
  exact ((planFor_rename_eq_nil_iff _ wellTyped sound' typed hedited htype
    (matched _ note hget) (m.usn + 1)).mpr (undisturbed _ note nt hget htype typed)).2

end Rename

/-- **Renaming a field costs no card where it disturbs no note.** In a collection that operations have
led to and whose cards match their notes, the report of a rename that is granted and not cancelled
shows no new and no deleted card exactly if the rename leaves the cloze numbers in `Text` as they are
and no gate on the field finds a value under the new name that was not held under the old one; and then
every card is still there, with its reviews. -/
theorem rename_keeps_cards (ops : List Operation) (scheduler : Scheduler)
    (typeName oldName newName : String) (options : RegenerationOptions)
    (report : RegenerationReport)
    (matched : ∀ id note, (Operation.afterAll store ops {}).notes.get? id = some (.readable note) →
      Matched (Operation.afterAll store ops {}) note)
    (uncancelled : ∀ progress, options.cancel progress = false)
    (granted : (Operation.editNoteType scheduler typeName (.renameField oldName newName)
      options).answer store (Operation.afterAll store ops {}) = .ok (.report report)) :
    (report.cardsCreated = 0 ∧ report.cardsDeleted = 0 ↔
      (Operation.afterAll store ops {}).Undisturbed typeName oldName newName) ∧
    ((Operation.afterAll store ops {}).Undisturbed typeName oldName newName →
      ∀ c, (Operation.afterAll store ops {}).Holds c →
        Survives (Operation.afterAll store ops {})
          ((Operation.editNoteType scheduler typeName (.renameField oldName newName) options).after
            store (Operation.afterAll store ops {})) c) := by
  have intact := intact_afterAll ops
  have wellTyped : WellTyped (Operation.afterAll store ops {}) :=
    Operation.afterAll_invariant (fun op _ _ h => h.after op) wellTyped_empty
  obtain ⟨nt, edited, typed, hedited, rfl, rfl, hafter⟩ :=
    editNoteType_granted intact.sound rfl granted
  rw [hafter]
  exact ⟨rename_counts intact wellTyped typed hedited matched scheduler uncancelled,
    fun undisturbed _ hc =>
      rename_survives intact wellTyped typed hedited matched scheduler options undisturbed hc⟩

/-- Where no cards are deleted of their own accord, all of them match. -/
theorem matched_of_plain {ops : List Operation} (plain : ∀ op ∈ ops, Plain op) (id : NoteId)
    (note : Note) (hget : (Operation.afterAll store ops {}).notes.get? id = some (.readable note)) :
    Matched (Operation.afterAll store ops {}) note := by
  have settled : Settled (Operation.afterAll store ops {}) :=
    Operation.afterAll_invariant (fun op hop _ h => h.after (plain op hop)) settled_empty
  exact (settled.live id note hget).matched

/-- The report of an answer that is one. -/
def reportOf? : Except CollectionError Reply → Option RegenerationReport
  | .ok (.report report) => some report
  | _ => none

theorem exists_report {answer : Except CollectionError Reply} {P : RegenerationReport → Prop}
    (h : ∃ report ∈ reportOf? answer, P report) :
    ∃ report, answer = .ok (.report report) ∧ P report := by
  obtain ⟨report, hreport, hP⟩ := h
  unfold reportOf? at hreport
  split at hreport
  · exact ⟨report, by rw [Option.some.inj hreport], hP⟩
  · cases hreport

/-- A note whose only card is gated on a field that the note fills in. -/
def gatedNote : List Operation :=
  [.seed "Default",
    .addNote {} ⟨"Basic", 1, .ofList [("Front", "F"), ("Back", "B")], [], ⟨0, 0⟩⟩,
    .editNoteType {} "Basic" (.updateTemplate "Card 1" { gate := some "Back" })
      { defaultDeck := 1, now := ⟨60, 0⟩ }]

/-- The gate moves with the field and the value with both, so the card is kept. -/
theorem rename_keeps_cards_gated :
    let m := Operation.afterAll store gatedNote {}
    let rename : Operation := .editNoteType {} "Basic" (.renameField "Back" "Reverse")
      { defaultDeck := 1, now := ⟨90, 0⟩ }
    (∀ id note, m.notes.get? id = some (.readable note) → Matched m note) ∧
      (∀ progress, neverCancelled progress = false) ∧ (m.cardsOf 1).length = 1 ∧
      ∃ report, rename.answer store m = .ok (.report report) ∧
        report.cardsCreated = 0 ∧ report.cardsDeleted = 0 ∧
        ∀ c, m.Holds c → Survives m (rename.after store m) c := by
  intro m rename
  have plain : ∀ op ∈ gatedNote, Plain op := by
    simp [gatedNote, Plain, neverCancelled]
  have matched := matched_of_plain plain
  obtain ⟨report, granted, created, deleted⟩ : ∃ report,
      rename.answer store m = .ok (.report report) ∧
        report.cardsCreated = 0 ∧ report.cardsDeleted = 0 :=
    exists_report (by decide +kernel)
  obtain ⟨counts, survives⟩ :=
    rename_keeps_cards gatedNote {} "Basic" "Back" "Reverse" _ report matched (fun _ => rfl) granted
  exact ⟨matched, fun _ => rfl, by decide +kernel, report, granted, created, deleted,
    survives (counts.mp ⟨created, deleted⟩)⟩

/-- A note with one cloze card. -/
def clozeNote : List Operation :=
  [.seed "Default",
    .addNote {} ⟨"Cloze", 1, .ofList [("Text", "\x7b\x7bc1::Paris\x7d\x7d")], [], ⟨0, 0⟩⟩]

/-- A note with a value under a name that its type does not have. -/
def strayNote : List Operation :=
  [.seed "Default", .addNote {} ⟨"Basic (optional reversed card)", 1,
    .ofList [("Front", "F"), ("Back", "B"), ("Both", "y")], [], ⟨0, 0⟩⟩]

/-- Renames that do cost and bring cards: cloze cards are made from `Text` only, and a value that lies
under the new name already opens the gate that was shut. -/
theorem rename_costs_cards :
    (let m := Operation.afterAll store clozeNote {}
      let rename : Operation := .editNoteType {} "Cloze" (.renameField "Text" "Body")
        { defaultDeck := 1, now := ⟨60, 0⟩ }
      (∀ id note, m.notes.get? id = some (.readable note) → Matched m note) ∧
        ∃ report, rename.answer store m = .ok (.report report) ∧ report.cardsDeleted = 1 ∧
          ∃ c, m.Holds c ∧ ¬ Survives m (rename.after store m) c) ∧
    (let m := Operation.afterAll store strayNote {}
      let rename : Operation := .editNoteType {} "Basic (optional reversed card)"
        (.renameField "Add Reverse" "Both") { defaultDeck := 1, now := ⟨60, 0⟩ }
      (∀ id note, m.notes.get? id = some (.readable note) → Matched m note) ∧
        ∃ report, rename.answer store m = .ok (.report report) ∧ report.cardsCreated = 1) := by
  refine ⟨?cloze, ?stray⟩
  case cloze =>
    intro m rename
    have plain : ∀ op ∈ clozeNote, Plain op := by simp [clozeNote, Plain]
    have matched := matched_of_plain plain
    obtain ⟨report, granted, deleted⟩ : ∃ report,
        rename.answer store m = .ok (.report report) ∧ report.cardsDeleted = 1 :=
      exists_report (by decide +kernel)
    have hheld : (m.cards.get? 1).isSome := by decide +kernel
    have hgone : (rename.after store m).cards.get? 1 = none := by decide +kernel
    obtain ⟨c, hget⟩ := Option.isSome_iff_exists.mp hheld
    have keyed : m.Keyed := (intact_afterAll clozeNote).sound.keyed
    have hid : c.id = 1 := keyed _ _ hget
    refine ⟨matched, report, granted, deleted, c, holds_of_get? keyed hget, ?_⟩
    rintro ⟨⟨front, back, usn, hholds⟩, -⟩
    exact Option.some_ne_none _ ((hid ▸ hholds).symm.trans hgone)
  case stray =>
    intro m rename
    have plain : ∀ op ∈ strayNote, Plain op := by simp [strayNote, Plain]
    exact ⟨matched_of_plain plain, exists_report (by decide +kernel)⟩

end Memory

end Flashcard
