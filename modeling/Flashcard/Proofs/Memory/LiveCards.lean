import Flashcard.Proofs.Drafts
import Flashcard.Proofs.Memory.Batch
import Flashcard.Proofs.Memory.Intact

/-!
# Live cards

In a collection that is only ever worked on by operations, the cards of each note are those that its
fields and the templates of its type give: one for each draft, with the content of the draft.

- `Memory.Live`: the cards of a note are up to date.
- `Memory.Settled`: the invariant.
- `Memory.settled_regenerate`: making cards anew brings the notes of one type up to date.
- `Memory.live_cards`: after any operations that delete no cards and are not cancelled.
-/

namespace Flashcard

namespace Memory

open Collection

/-- The cards of a note are up to date: they match, one to one, the drafts of the note, which all
have different identities. -/
def Live (m : Memory) (note : Note) : Prop :=
  ∃ nt drafts, m.noteTypes.get? note.typeName = some nt ∧
    compile (.only nt) note.typeName note.fields = .ok drafts ∧
    (drafts.map CardDraft.identity).Nodup ∧ ((m.cardsOf note.id).map Card.draft).Perm drafts

/-- All cards of the collection are up to date. -/
structure Settled (m : Memory) : Prop where
  intact : Intact m
  live : ∀ id note, m.notes.get? id = some (.readable note) → Live m note

variable {m m' : Memory}

theorem settled_empty : Settled {} := ⟨intact_empty, fun _ _ h => nomatch h⟩

theorem live_of_perm (sound : Sound m) {nt : NoteType} {note : Note}
    (typed : m.noteTypes.get? note.typeName = some nt)
    (hcards : ((m.cardsOf note.id).map Card.draft).Perm (nt.drafts note.fields)) :
    Live m note := by
  obtain ⟨hname, distinct⟩ := sound.types _ _ typed
  exact ⟨nt, _, typed, compile_only_eq_ok.mpr ⟨hname, rfl⟩,
    NoteType.nodup_identities_drafts distinct note.fields, hcards⟩

theorem Live.perm {nt : NoteType} {note : Note} (h : Live m note)
    (typed : m.noteTypes.get? note.typeName = some nt) :
    ((m.cardsOf note.id).map Card.draft).Perm (nt.drafts note.fields) := by
  obtain ⟨nt', drafts, htyped, hcompile, -, hcards⟩ := h
  rw [typed] at htyped
  cases htyped
  rw [← (compile_only_eq_ok.mp hcompile).2]
  exact hcards

/-- A note stays up to date while its cards and its type stay as they are. -/
theorem Live.congr {note : Note} (h : Live m note)
    (htypes : m'.noteTypes.get? note.typeName = m.noteTypes.get? note.typeName)
    (hcards : (m'.cardsOf note.id).map Card.draft = (m.cardsOf note.id).map Card.draft) :
    Live m' note := by
  unfold Live
  rw [htypes, hcards]
  exact h

theorem SameNote.live {note : Note} (h : SameNote note.id m m')
    (htypes : m'.noteTypes.get? note.typeName = m.noteTypes.get? note.typeName)
    (hlive : Live m note) : Live m' note :=
  hlive.congr htypes (congrArg (List.map Card.draft) h.cards)

/-- Fitting the cards of a note brings it up to date. -/
theorem FittedNote.live (sound : Sound m) (sound' : Sound m') {r : Regenerator} {nt : NoteType}
    {note : Note} {first : CardId} (typed : m'.noteTypes.get? note.typeName = some nt)
    (h : FittedNote note.id (r.fit nt note (m.cardsOf note.id) first) m m') : Live m' note := by
  refine live_of_perm sound' typed ?_
  -- the cards show the drafts that count, and as all identities differ all drafts do
  have hshows := h.shows sound.keyed
  rwa [Shows, firstOfEach_eq_self
    (NoteType.nodup_identities_drafts (sound'.types _ _ typed).2 note.fields)] at hshows

/-! ## Notes and decks -/

theorem Settled.writeNote (h : Settled m) {r : Regenerator} {nt : NoteType} {note : Note}
    (typed : m.noteTypes.get? note.typeName = some nt) :
    Settled (m.writeNote note (r.fit nt note (m.cardsOf note.id) (Store.nextId m.cards))) := by
  have fit := isFit_fit r nt note m
  have intact' := h.intact.writeNote (sound_writeNote h.intact.sound fit) typed
  have keyed := h.intact.sound.keyed
  refine ⟨intact', ?_⟩
  intro id note' hget
  -- the written note is fitted; the others keep their cards and types
  rw [get?_writeNote] at hget
  split at hget
  · cases hget
    refine (fit.fittedNote_writeNote keyed).live h.intact.sound intact'.sound ?_
    rw [noteTypes_writeNote]
    exact typed
  · next hne =>
    have hid : note'.id ≠ note.id := (h.intact.sound.notes _ _ hget).symm ▸ hne
    refine (fit.sameNote_writeNote keyed hid).live ?_ (h.live id note' hget)
    rw [noteTypes_writeNote]

/-- Nothing is out of date where no note, no card and no type in use changes. -/
theorem Settled.same (h : Settled m) (intact' : Intact m') (hnotes : m'.notes = m.notes)
    (hcards : m'.cards = m.cards)
    (htypes : ∀ name nt, m.noteTypes.get? name = some nt → m'.noteTypes.get? name = some nt) :
    Settled m' := by
  refine ⟨intact', ?_⟩
  intro id note hget
  rw [hnotes] at hget
  obtain ⟨nt, hnt⟩ := h.intact.noteType hget
  refine (h.live id note hget).congr ((htypes _ _ hnt).trans hnt.symm) ?_
  rw [cardsOf, hcards, cardsOf]

/-! ## Answers and marks -/

theorem map_draft_cardsOf_putCard {c c' : Card} (hc : m.Holds c) (hid : c'.id = c.id)
    (hn : c'.noteId = c.noteId) (hdraft : c'.draft = c.draft) (n : NoteId) :
    ((m.putCard c').cardsOf n).map Card.draft = (m.cardsOf n).map Card.draft := by
  -- the card is replaced in its place, so the list is mapped and its order stays
  have hput : (m.putCard c').cards =
      m.cards.mapValues fun id old => if id = c.id then c' else old := by
    rw [putCard, hid]
    exact SortedMap.insert_eq_mapValues hc
  have hsame : ∀ e ∈ m.cards.entries, (if e.1 = c.id then c' else e.2).noteId = e.2.noteId ∧
      (if e.1 = c.id then c' else e.2).draft = e.2.draft := by
    intro e he
    split
    · next h =>
      have hget := SortedMap.get?_eq_some_iff.mpr he
      rw [h] at hget
      obtain rfl := Option.some.inj (hc.symm.trans hget)
      exact ⟨hn, hdraft⟩
    · exact ⟨rfl, rfl⟩
  rw [cardsOf, hput, cardsOf, SortedMap.values, SortedMap.values, SortedMap.entries_mapValues,
    List.map_map, List.filter_map, List.filter_map, List.map_map, List.map_map]
  have hfilter : ∀ e ∈ m.cards.entries, ((·.noteId == n) ∘
      ((·.2) ∘ fun e : CardId × Card => (e.1, if e.1 = c.id then c' else e.2))) e =
        ((·.noteId == n) ∘ (·.2)) e := by
    intro e he
    show ((if e.1 = c.id then c' else e.2).noteId == n) = (e.2.noteId == n)
    rw [(hsame e he).1]
  rw [List.filter_congr hfilter]
  exact List.map_congr_left fun e he => (hsame e (List.mem_filter.mp he).1).2

theorem Settled.putCard (h : Settled m) {c c' : Card} (hc : m.Holds c) (intact' : Intact m')
    (hcards : m'.cards = (m.putCard c').cards) (hid : c'.id = c.id) (hn : c'.noteId = c.noteId)
    (hdraft : c'.draft = c.draft) (hnotes : m'.notes = m.notes)
    (htypes : m'.noteTypes = m.noteTypes) : Settled m' := by
  refine ⟨intact', ?_⟩
  intro id note hget
  rw [hnotes] at hget
  refine (h.live id note hget).congr (by rw [htypes]) ?_
  have hput := map_draft_cardsOf_putCard hc hid hn hdraft note.id
  rw [cardsOf, ← hcards] at hput
  exact hput

/-! ## Types -/

/-- **Making cards anew** brings the notes of a type up to date, and leaves those of other types up
to date. -/
theorem settled_regenerate (intact : Intact m) {typeName : String}
    (others : ∀ id note, m.notes.get? id = some (.readable note) → note.typeName ≠ typeName →
      Live m note)
    (scheduler : Scheduler) {options : RegenerationOptions}
    (uncancelled : ∀ progress, options.cancel progress = false) :
    Settled (left (regenerate store scheduler typeName options) m) := by
  have intact' : Intact (left (regenerate store scheduler typeName options) m) := by
    rw [← after_regenerate]
    exact intact.after _
  refine ⟨intact', ?_⟩
  intro id note hget
  have sound := intact.sound
  have sound' := intact'.sound
  rw [left_regenerate] at hget sound' ⊢
  cases htyped : m.noteTypes.get? typeName with
  | none =>
    rw [htyped] at hget
    -- no note is of a type that is missing
    refine others id note hget ?_
    intro htype
    obtain ⟨nt, hnt⟩ := intact.noteType hget
    rw [htype, htyped] at hnt
    cases hnt
  | some nt =>
    rw [htyped] at hget sound'
    dsimp only at hget sound' ⊢
    rw [run_notes] at hget
    obtain rfl := sound.notes id note hget
    by_cases htype : note.typeName = typeName
    · -- nothing fails and nothing is cancelled, so each listed note is fitted
      have hcalm : note.id ∉ m.failing := intact.calm ▸ List.not_mem_nil
      obtain ⟨first, -, hfits⟩ := run_fitted _ nt options.cancel _ sound.keyed
        (nodup_idsOf_listed sound.filed typeName) uncancelled
        ((mem_listed_iff sound.filed).mpr ⟨htype, hget⟩) hcalm
        ((sound.types _ _ htyped).1.trans htype.symm)
      refine hfits.live sound sound' ?_
      rw [run_types, htype]
      exact htyped
    · -- a note of another type is not listed
      refine (run_other _ nt _ _ sound.keyed ?_).live ?_
        (others _ note hget htype)
      · intro note' hnote' hid
        obtain ⟨htype', hget'⟩ := (mem_listed_iff sound.filed).mp hnote'
        rw [hid, hget] at hget'
        cases hget'
        exact htype htype'
      · rw [run_types]

/-- Saving an edited note type leaves the notes of other types up to date. -/
theorem Settled.live_otherType (h : Settled m) {typeName : String} {edit : NoteTypeEdit}
    {edited : NoteType} (hname : edited.name = typeName) {usn : Usn} {id : NoteId} {note : Note}
    (hget : (m.writeNoteType edited (editedNotes edit (m.listed typeName) usn)).notes.get? id =
      some (.readable note)) (hne : note.typeName ≠ typeName) :
    Live (m.writeNoteType edited (editedNotes edit (m.listed typeName) usn)) note := by
  rcases get?_writeNoteType edit typeName usn edited id with ⟨old, fields, hold, -, heq⟩ | heq
  · cases heq.symm.trans hget
    exact absurd (mem_listed hold).1 hne
  · refine (h.live id note (heq.symm.trans hget)).congr ?_ (congrArg _ (cardsOf_writeNoteType ..))
    rw [noteTypes_writeNoteType, SortedMap.get?_insert, hname, if_neg hne]

/-- An edit that does not affect cards leaves the notes of its type up to date, too. -/
theorem Settled.live_sameType (h : Settled m) {nt edited : NoteType} {edit : NoteTypeEdit}
    (hedit : nt.edit edit = .ok edited) (haffects : edit.affectsCards = false)
    (typed : m.noteTypes.get? edited.name = some nt) {listed : List (Except StoreError Note)}
    {usn : Usn} (sound' : Sound (m.writeNoteType edited (editedNotes edit listed usn)))
    {id : NoteId} {note : Note}
    (hget : (m.writeNoteType edited (editedNotes edit listed usn)).notes.get? id =
      some (.readable note)) (htype : note.typeName = edited.name) :
    Live (m.writeNoteType edited (editedNotes edit listed usn)) note := by
  -- neither templates nor fields of notes change, and so the drafts do not
  obtain ⟨htemplates, hchange⟩ := NoteType.templates_edit hedit haffects
  have hget' : m.notes.get? id = some (.readable note) := by
    rw [editedNotes, hchange, writeNoteType_eq] at hget
    exact hget
  have htyped : (m.writeNoteType edited (editedNotes edit listed usn)).noteTypes.get?
      note.typeName = some edited := by
    rw [noteTypes_writeNoteType, SortedMap.get?_insert, if_pos htype]
  refine live_of_perm sound' htyped ?_
  rw [cardsOf_writeNoteType, NoteType.drafts_congr htemplates]
  exact (h.live id note hget').perm (htype ▸ typed)

theorem Settled.editNoteType (h : Settled m) (scheduler : Scheduler) (typeName : String)
    (edit : NoteTypeEdit) {options : RegenerationOptions}
    (uncancelled : ∀ progress, options.cancel progress = false) :
    Settled ((Operation.editNoteType scheduler typeName edit options).after store m) := by
  rcases after_editNoteType scheduler typeName edit options m with
    hafter | ⟨nt, edited, typed, hedit, hafter⟩
  · rw [hafter]
    exact h
  have sound := h.intact.sound
  have intact' := h.intact.change (.edit typed hedit : Change
    (.editNoteType scheduler typeName edit options) m _)
  have hname : edited.name = typeName :=
    (NoteType.name_edit hedit).trans (sound.types _ _ typed).1
  rw [hafter]
  split
  · exact settled_regenerate intact' (fun _ _ => h.live_otherType hname) scheduler uncancelled
  · next haffects =>
    refine ⟨intact', ?_⟩
    intro id note hget
    by_cases htype : note.typeName = typeName
    · exact h.live_sameType hedit (Bool.eq_false_iff.mpr haffects) (hname ▸ typed) intact'.sound
        hget (htype.trans hname.symm)
    · exact h.live_otherType hname hget htype

/-! ## Every operation -/

/-- Whether a request deletes no cards of its own accord and is not cancelled. -/
def Plain : Operation → Prop
  | .deleteCards _ => False
  | .editNoteType _ _ _ options | .regenerate _ _ options =>
    ∀ progress, options.cancel progress = false
  | _ => True

theorem Settled.change_seed (h : Settled m) {deckName : String}
    (hchange : Change (.seed deckName) m m') : Settled m' := by
  have intact' := h.intact.change hchange
  cases hchange with
  | @stockType _ nt _ _ absent =>
    refine h.same intact' rfl rfl ?_
    intro name nt' hnt'
    show (m.noteTypes.insert nt.name nt).get? name = some nt'
    rw [SortedMap.get?_insert, if_neg, hnt']
    -- a stock type is only saved where its name is free
    rintro rfl
    rw [absent] at hnt'
    cases hnt'
  | stockDeck _ => exact h.same intact' rfl rfl fun _ _ => id

/-- Every plain operation keeps all cards up to date. -/
theorem Settled.after (h : Settled m) {op : Operation} (plain : Plain op) :
    Settled (op.after store m) := by
  have of_cases : (op.after store m = m ∨ Change op m (op.after store m)) →
      (∀ m', Change op m m' → Settled m') → Settled (op.after store m) := by
    rintro (hsame | hchange) hall
    · rw [hsame]
      exact h
    · exact hall _ hchange
  have of_question : op.after store m = m → Settled (op.after store m) := by
    intro hsame
    rw [hsame]
    exact h
  cases op with
  | seed deckName => exact after_invariant (fun _ _ hchange h => h.change_seed hchange) h
  | ensureDeck name =>
    refine of_cases (after_ensureDeck name m) ?_
    intro m' hchange
    have intact' := h.intact.change hchange
    cases hchange with
    | newDeck _ => exact h.same intact' rfl rfl fun _ _ => id
  | addNote scheduler new =>
    refine of_cases (after_addNote scheduler new m) ?_
    intro m' hchange
    cases hchange with
    | @newNote _ _ nt note _ typed _ _ note_eq =>
      have hid : note.id = Store.nextId m.notes := note_eq ▸ rfl
      rw [← cardsOf_nextId h.intact.sound, ← hid]
      exact h.writeNote (note_eq ▸ typed)
  | updateNote scheduler change =>
    refine of_cases (after_updateNote scheduler change m) ?_
    intro m' hchange
    cases hchange with
    | noteChange _ typed _ note_eq => exact h.writeNote (note_eq ▸ typed)
  | editNoteType scheduler typeName edit options =>
    exact h.editNoteType scheduler typeName edit plain
  | regenerate scheduler typeName options =>
    rw [after_regenerate]
    exact settled_regenerate h.intact (fun id note hget _ => h.live id note hget) scheduler plain
  | answerCard scheduler answer =>
    refine of_cases (after_answerCard scheduler answer m) ?_
    intro m' hchange
    have intact' := h.intact.change hchange
    cases hchange with
    | answer found _ =>
      exact h.putCard (holds_of_get? h.intact.sound.keyed found) intact' rfl rfl rfl rfl rfl rfl
  | updateCardFlags id update =>
    refine of_cases (after_updateCardFlags id update m) ?_
    intro m' hchange
    have intact' := h.intact.change hchange
    cases hchange with
    | flags found =>
      exact h.putCard (holds_of_get? h.intact.sound.keyed found) intact' rfl rfl rfl rfl rfl rfl
  | deleteCards ids => exact plain.elim
  | findEmptyCards typeName => exact of_question (after_question _ _ _)
  | checkDuplicate typeName query => exact of_question (after_question _ _ _)
  | dueCards deck now limit => exact of_question (after_question _ _ _)
  | deckStats deck now => exact of_question (after_question _ _ _)

/-- **Cards stay live**: after any plain operations on the empty collection, granted or refused,
every note can be read and its cards are up to date. -/
theorem live_cards (ops : List Operation) (plain : ∀ op ∈ ops, Plain op) (id : NoteId)
    (stored : StoredNote)
    (hstored : (Operation.afterAll store ops {}).notes.get? id = some stored) :
    ∃ note, stored = .readable note ∧ note.id = id ∧
      Live (Operation.afterAll store ops {}) note := by
  have settled : Settled (Operation.afterAll store ops {}) :=
    Operation.afterAll_invariant (fun op hop _ h => h.after (plain op hop)) settled_empty
  obtain ⟨note, -, rfl, -⟩ := settled.intact.typed id stored hstored
  exact ⟨note, rfl, settled.intact.sound.notes id note hstored, settled.live id note hstored⟩

/-- A note that gets another field value, and whose type then gets another template. -/
def edited : List Operation :=
  [.seed "Default",
    .addNote {} ⟨"Basic", 1, .ofList [("Front", "F"), ("Back", "B")], [], ⟨0, 0⟩⟩,
    .updateNote {} ⟨1, .ofList [("Front", "G")], none, 1, ⟨60, 0⟩⟩,
    .editNoteType {} "Basic"
      (.addTemplate { name := "Reverse", question := "{{Back}}", answer := "{{Front}}" })
      { defaultDeck := 1, now := ⟨90, 0⟩ }]

/-- The note then has two cards, which are up to date. -/
theorem live_cards_edited :
    (∀ op ∈ edited, Plain op) ∧ ∃ note,
      (Operation.afterAll store edited {}).notes.get? 1 = some (.readable note) ∧
        ((Operation.afterAll store edited {}).cardsOf 1).length = 2 ∧
          Live (Operation.afterAll store edited {}) note := by
  have plain : ∀ op ∈ edited, Plain op := by
    simp [edited, Plain, neverCancelled]
  have hsome : ((Operation.afterAll store edited {}).notes.get? 1).isSome := by decide +kernel
  obtain ⟨stored, hstored⟩ := Option.isSome_iff_exists.mp hsome
  obtain ⟨note, rfl, -, hlive⟩ := live_cards edited plain 1 stored hstored
  exact ⟨plain, note, hstored, by decide +kernel, hlive⟩

end Memory

end Flashcard
