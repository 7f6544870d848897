import Flashcard.Proofs.Memory.History
import Flashcard.Proofs.Memory.Intact

/-!
# What operations leave alone

All cards and reviews of a collection are kept together under ids that are used again once they are
free. Still an operation touches only what it is asked for: the note it adds or changes with its
cards, the cards it names, or a note type with its notes and their cards.

- `Scope`, `Operation.scope`: what an operation may touch.
- `Within`: everything outside a scope is as it was.
- `NotesKept`: what notes keep under every operation.
- `within_change`, `notesKept_change`: each single change.

## Main statements

- `touches_only_scope`: each operation on each store that operations and planted faults lead to.
-/

namespace Flashcard

/-- What may be touched of a collection. -/
structure Scope where
  note : NoteId → Prop := fun _ => False
  /-- Cards that may come, change or go, with their reviews. -/
  card : Card → Prop := fun _ => False
  noteType : String → Prop := fun _ => False
  deck : DeckId → Prop := fun _ => False

/-- Whether all of a scope lies in another one. -/
structure Scope.Le (a b : Scope) : Prop where
  note : ∀ id, a.note id → b.note id
  card : ∀ c, a.card c → b.card c
  noteType : ∀ name, a.noteType name → b.noteType name
  deck : ∀ id, a.deck id → b.deck id

instance : LE Scope := ⟨Scope.Le⟩

theorem Scope.le_refl (a : Scope) : a ≤ a :=
  ⟨fun _ h => h, fun _ h => h, fun _ h => h, fun _ h => h⟩

/-- Whether a note is a later version of another one. -/
structure Note.SameAs (note' note : Note) : Prop where
  id_eq : note'.id = note.id
  typeName_eq : note'.typeName = note.typeName
  createdAt_eq : note'.createdAt = note.createdAt

theorem Note.SameAs.refl (note : Note) : note.SameAs note := ⟨rfl, rfl, rfl⟩

theorem Note.SameAs.trans {n₁ n₂ n₃ : Note} (h : n₁.SameAs n₂) (h' : n₂.SameAs n₃) :
    n₁.SameAs n₃ :=
  ⟨h.id_eq.trans h'.id_eq, h.typeName_eq.trans h'.typeName_eq,
    h.createdAt_eq.trans h'.createdAt_eq⟩

namespace Memory

open Collection

/-- Whether a note of a type is kept under an id, be it readable or not. -/
def HasType (m : Memory) (typeName : String) (id : NoteId) : Prop :=
  ∃ stored, m.notes.get? id = some stored ∧ typeOf stored = typeName

/-- What an operation may touch of a store. -/
def scope (m : Memory) : Operation → Scope
  -- what is there already is neither written again nor replaced
  | .seed _ =>
    { noteType := fun name => m.noteTypes.get? name = none
      deck := fun id => m.decks.get? id = none }
  | .ensureDeck _ => { deck := fun id => m.decks.get? id = none }
  | .addNote _ _ =>
    { note := fun id => id = Store.nextId m.notes
      card := fun c => c.noteId = Store.nextId m.notes }
  | .updateNote _ change =>
    { note := fun id => id = change.noteId
      card := fun c => c.noteId = change.noteId }
  | .editNoteType _ typeName _ _ =>
    { note := m.HasType typeName
      card := fun c => m.HasType typeName c.noteId
      noteType := fun name => name = typeName }
  | .regenerate _ typeName _ => { card := fun c => m.HasType typeName c.noteId }
  | .answerCard _ answer => { card := fun c => c.id = answer.cardId }
  | .updateCardFlags id _ => { card := fun c => c.id = id }
  | .deleteCards ids => { card := fun c => c.id ∈ ids }
  | .findEmptyCards _ | .checkDuplicate _ _ | .dueCards _ _ _ | .deckStats _ _ => {}

/-- What two stores agree on about a card: whether it is kept just as it is, and its reviews. -/
structure SameCard (c : Card) (m m' : Memory) : Prop where
  held : m'.Holds c ↔ m.Holds c
  reviews : m.Holds c → m'.reviewsOf c.id = m.reviewsOf c.id

/-- Whether all outside a scope is as it was. -/
structure Within (scope : Scope) (m m' : Memory) : Prop where
  notes : ∀ id, ¬ scope.note id → m'.notes.get? id = m.notes.get? id
  cards : ∀ c, ¬ scope.card c → SameCard c m m'
  noteTypes : ∀ name, ¬ scope.noteType name → m'.noteTypes.get? name = m.noteTypes.get? name
  decks : ∀ id, ¬ scope.deck id → m'.decks.get? id = m.decks.get? id

/-- What notes keep: none of them goes, each stays the note that it is, and one that cannot be read
stays just as it is. -/
structure NotesKept (m m' : Memory) : Prop where
  readable : ∀ id note, m.notes.get? id = some (.readable note) →
    ∃ note', m'.notes.get? id = some (.readable note') ∧ note'.SameAs note
  unreadable : ∀ id typeName reason, m.notes.get? id = some (.unreadable typeName reason) →
    m'.notes.get? id = some (.unreadable typeName reason)

variable {op : Operation} {s : Scope} {m m' m'' : Memory} {n : NoteId}

/-! ## One card, one note -/

theorem SameCard.refl (c : Card) (m : Memory) : SameCard c m m := ⟨Iff.rfl, fun _ => rfl⟩

/-- A card stays if all cards and records do. -/
theorem SameCard.of_eq {c : Card} (hcards : m'.cards = m.cards) (hreviews : m'.reviews = m.reviews) :
    SameCard c m m' := by
  constructor
  · rw [Holds, Holds, hcards]
  · intro _
    rw [reviewsOf, reviewsOf, hreviews]

theorem SameCard.trans {c : Card} (h : SameCard c m m') (h' : SameCard c m' m'') :
    SameCard c m m'' :=
  ⟨h'.held.trans h.held, fun hc => (h'.reviews (h.held.mpr hc)).trans (h.reviews hc)⟩

/-- Where a note is left alone, each of its cards is. -/
theorem SameNote.sameCard (keyed : m.Keyed) (keyed' : m'.Keyed) {c : Card}
    (h : SameNote c.noteId m m') : SameCard c m m' := by
  have hheld : ∀ {m : Memory}, m.Keyed → (m.Holds c ↔ c ∈ m.cardsOf c.noteId) := fun keyed =>
    ((mem_cardsOf keyed).trans (and_iff_left rfl)).symm
  refine ⟨?_, fun hc => h.reviews c ((hheld keyed).mp hc)⟩
  rw [hheld keyed', hheld keyed, h.cards]

/-- Notes are kept if they stay. -/
theorem NotesKept.of_eq (h : m'.notes = m.notes) : NotesKept m m' := by
  constructor
  · intro id note hget
    exact ⟨note, h ▸ hget, .refl note⟩
  · intro id typeName reason hget
    exact h ▸ hget

/-- Notes are kept where each of them stays, is new, or is replaced by a later version. -/
theorem NotesKept.of_get? (h : ∀ id, m'.notes.get? id = m.notes.get? id ∨ m.notes.get? id = none ∨
    ∃ note note', m.notes.get? id = some (.readable note) ∧
      m'.notes.get? id = some (.readable note') ∧ note'.SameAs note) : NotesKept m m' := by
  constructor
  · intro id note hget
    rcases h id with hsame | hnew | ⟨note₀, note', hget₀, hget', same⟩
    · exact ⟨note, hsame.trans hget, .refl note⟩
    · cases hnew.symm.trans hget
    · cases hget₀.symm.trans hget
      exact ⟨note', hget', same⟩
  · intro id typeName reason hget
    rcases h id with hsame | hnew | ⟨note₀, note', hget₀, -, -⟩
    · exact hsame.trans hget
    · cases hnew.symm.trans hget
    · cases hget₀.symm.trans hget

theorem NotesKept.trans (h : NotesKept m m') (h' : NotesKept m' m'') : NotesKept m m'' := by
  constructor
  · intro id note hget
    obtain ⟨note', hget', same⟩ := h.readable id note hget
    obtain ⟨note'', hget'', same'⟩ := h'.readable id note' hget'
    exact ⟨note'', hget'', same'.trans same⟩
  · intro id typeName reason hget
    exact h'.unreadable id typeName reason (h.unreadable id typeName reason hget)

/-! ## One change -/

theorem Within.refl (s : Scope) (m : Memory) : Within s m m :=
  ⟨fun _ _ => rfl, fun c _ => .refl c m, fun _ _ => rfl, fun _ _ => rfl⟩

/-- What leaves notes, note types and decks alone is within scope if its cards are. -/
theorem Within.of_cards (hnotes : m'.notes = m.notes) (htypes : m'.noteTypes = m.noteTypes)
    (hdecks : m'.decks = m.decks) (hcards : ∀ c, ¬ s.card c → SameCard c m m') :
    Within s m m' := by
  refine ⟨fun _ _ => ?_, hcards, fun _ _ => ?_, fun _ _ => ?_⟩
  · rw [hnotes]
  · rw [htypes]
  · rw [hdecks]

/-- What is done after a change touches no more where its scope is no larger. -/
theorem Within.trans {s' : Scope} (h : Within s m m') (h' : Within s' m' m'') (hle : s' ≤ s) :
    Within s m m'' where
  notes id hid := (h'.notes id (mt (hle.note id) hid)).trans (h.notes id hid)
  cards c hc := (h.cards c hc).trans (h'.cards c (mt (hle.card c) hc))
  noteTypes name hname :=
    (h'.noteTypes name (mt (hle.noteType name) hname)).trans (h.noteTypes name hname)
  decks id hid := (h'.decks id (mt (hle.deck id) hid)).trans (h.decks id hid)

section Fit

variable {drafts : List CardDraft} {plan : ReconcilePlan}

/-- A fitting plan touches the cards of its note only. -/
theorem within_writePlan (keyed : m.Keyed) (fit : m.IsFit n drafts plan)
    (hcard : ∀ c, c.noteId = n → s.card c) : Within s m (m.writePlan plan) := by
  refine .of_cards (notes_writePlan ..) (noteTypes_writePlan ..) (decks_writePlan ..) ?_
  intro c hc
  exact (fit.sameNote keyed (mt (hcard c) hc)).sameCard keyed (keyed_writePlan keyed fit)

/-- A note that is written with its plan changes itself and its cards. -/
theorem within_writeNote (sound : Sound m) {note : Note} (fit : m.IsFit note.id drafts plan)
    (hnote : s.note note.id) (hcard : ∀ c, c.noteId = note.id → s.card c) :
    Within s m (m.writeNote note plan) where
  notes id hid := by
    rw [get?_writeNote, if_neg]
    rintro rfl
    exact hid hnote
  cards c hc :=
    (fit.sameNote_writeNote sound.keyed (mt (hcard c) hc)).sameCard sound.keyed
      (sound_writeNote sound fit).keyed
  noteTypes name _ := by rw [noteTypes_writeNote]
  decks id _ := by rw [decks_writeNote]

end Fit

/-- Other cards are held as before. -/
theorem holds_putCard_of_ne {c c' : Card} (hne : c.id ≠ c'.id) :
    (m.putCard c').Holds c ↔ m.Holds c := by
  rw [holds_putCard]
  constructor
  · rintro (rfl | ⟨-, h⟩)
    · exact absurd rfl hne
    · exact h
  · exact fun h => Or.inr ⟨hne, h⟩

/-- A stored note has its type. -/
theorem hasType_of_get? (sound : Sound m) {id : NoteId} {note : Note}
    (h : m.notes.get? id = some (.readable note)) : m.HasType note.typeName note.id := by
  rw [sound.notes id note h]
  exact ⟨_, h, rfl⟩

/-- To fit a note changes cards of the note's type. -/
theorem within_refit (sound : Sound m) {scheduler : Scheduler} {typeName : String}
    {options : RegenerationOptions} (hrefit : Refit scheduler typeName options m m')
    (hcard : ∀ c, m.HasType typeName c.noteId → s.card c) : Within s m m' := by
  cases hrefit with
  | fit _ _ _ _ _ found typeName_eq _ _ =>
    refine within_writePlan sound.keyed (isFit_fit _ _ _ m) fun c hc => hcard c ?_
    rw [hc, ← typeName_eq]
    exact hasType_of_get? sound found

/-- A deck that is added is a new one. -/
theorem within_addDeck (h : ∀ id, m.decks.get? id = none → s.deck id) (name : String) :
    Within s m (m.addDeck name) := by
  refine ⟨fun _ _ => rfl, fun c _ => .of_eq rfl rfl, fun _ _ => rfl, ?_⟩
  intro id hid
  refine SortedMap.get?_insert_of_ne _ _ ?_
  rintro rfl
  exact hid (h _ (Store.get?_nextId m.decks))

/-- **Each single change stays within the scope** of its operation. -/
theorem within_change (sound : Sound m) (hchange : Change op m m') : Within (m.scope op) m m' := by
  cases hchange with
  | stockType _ absent =>
    refine ⟨fun _ _ => rfl, fun c _ => .of_eq rfl rfl, ?_, fun _ _ => rfl⟩
    intro name hname
    refine SortedMap.get?_insert_of_ne _ _ ?_
    rintro rfl
    exact hname absent
  | stockDeck _ | newDeck _ => exact within_addDeck (fun _ h => h) _
  | @newNote scheduler new nt note _ _ _ _ note_eq =>
    have hid : note.id = Store.nextId m.notes := note_eq ▸ rfl
    have fit := isFit_fit (m.regenerator scheduler new.deck new.now) nt note m
    rw [hid, cardsOf_nextId sound, ← hid] at fit
    exact within_writeNote sound fit hid fun c hc => hc.trans hid
  | @noteChange scheduler change nt old note _ found _ _ note_eq =>
    have hid : note.id = change.noteId :=
      (note_eq ▸ rfl : note.id = old.id).trans (sound.notes _ old found)
    exact within_writeNote sound (isFit_fit _ nt note m) hid fun c hc => hc.trans hid
  | @edit _ typeName edit _ nt edited _ typed edited_eq =>
    refine ⟨?_, fun c _ => .of_eq (cards_writeNoteType ..) (reviews_writeNoteType ..), ?_, ?_⟩
    · intro id hid
      rcases get?_writeNoteType edit typeName (m.usn + 1) edited id with
        ⟨old, fields, hold, rfl, -⟩ | hsame
      · -- only listed notes are written, and these are of the type
        obtain ⟨rfl, hget⟩ := (mem_listed_iff sound.filed).mp hold
        exact absurd ⟨_, hget, rfl⟩ hid
      · exact hsame
    · intro name hname
      have hedited : edited.name = typeName :=
        (NoteType.name_edit edited_eq).trans (sound.types _ _ typed).1
      rw [noteTypes_writeNoteType]
      refine SortedMap.get?_insert_of_ne _ _ ?_
      rintro rfl
      exact hname hedited
    · intro id _
      rw [decks_writeNoteType]
  | editedCards refit | newCards refit => exact within_refit sound refit fun _ h => h
  | @answer _ answer c₀ next review _ found _ =>
    refine .of_cards rfl rfl rfl fun c hc => ?_
    have hne : c.id ≠ answer.cardId := hc
    have hid₀ : c₀.id = answer.cardId := sound.keyed _ _ found
    refine ⟨holds_putCard_of_ne (hid₀ ▸ hne), fun _ => ?_⟩
    rw [reviewsOf_writeAnswer, if_neg hne]
  | @flags id _ c₀ _ found =>
    refine .of_cards rfl rfl rfl fun c hc => ?_
    have hne : c.id ≠ id := hc
    have hid₀ : c₀.id = id := sound.keyed _ _ found
    exact ⟨holds_putCard_of_ne (hid₀ ▸ hne), fun _ => rfl⟩
  | @deletion ids id _ asked =>
    refine .of_cards rfl rfl rfl fun c hc => ?_
    have hne : c.id ≠ id := ne_of_mem_of_not_mem asked hc |>.symm
    exact ⟨holds_dropCard.trans (and_iff_right hne), fun _ => reviewsOf_dropCard hne⟩

/-- **Each single change keeps notes.** -/
theorem notesKept_change (sound : Sound m) (hchange : Change op m m') : NotesKept m m' := by
  cases hchange with
  | stockType _ _ | stockDeck _ | newDeck _ | answer _ _ | flags _ | deletion _ => exact .of_eq rfl
  | @newNote _ new nt note _ _ _ _ note_eq =>
    refine .of_get? fun id => ?_
    rw [get?_writeNote]
    split
    · next hid =>
      rw [hid, note_eq]
      exact Or.inr (Or.inl (Store.get?_nextId m.notes))
    · exact Or.inl rfl
  | @noteChange _ change nt old note _ found _ _ note_eq =>
    have hid₀ : note.id = change.noteId :=
      (note_eq ▸ rfl : note.id = old.id).trans (sound.notes _ old found)
    refine .of_get? fun id => ?_
    rw [get?_writeNote]
    split
    · next hid =>
      refine Or.inr (Or.inr ⟨old, note, ?_, rfl, note_eq ▸ ⟨rfl, rfl, rfl⟩⟩)
      rw [hid, hid₀, found]
    · exact Or.inl rfl
  | @edit _ typeName edit _ nt edited _ _ _ =>
    refine .of_get? fun id => ?_
    rcases get?_writeNoteType edit typeName (m.usn + 1) edited id with
      ⟨old, fields, hold, rfl, hget⟩ | hsame
    · exact Or.inr (Or.inr ⟨old, _, ((mem_listed_iff sound.filed).mp hold).2, hget, ⟨rfl, rfl, rfl⟩⟩)
    · exact Or.inl hsame
  | editedCards refit | newCards refit =>
    cases refit
    exact .of_eq (notes_writePlan ..)

/-! ## Every operation -/

/-- What is done within the scope of an operation does not make the scope larger. -/
theorem scope_le (hop : ∀ scheduler new, op ≠ .addNote scheduler new)
    (h : Within (m.scope op) m m') : m'.scope op ≤ m.scope op := by
  -- a note of the type that was not one of them before would lie outside the scope
  have htype : ∀ {typeName : String} {id : NoteId}, (¬ m.HasType typeName id →
      m'.notes.get? id = m.notes.get? id) → m'.HasType typeName id → m.HasType typeName id := by
    intro typeName id hsame hid
    by_contra hnot
    obtain ⟨stored, hget, htype⟩ := hid
    exact hnot ⟨stored, hsame hnot ▸ hget, htype⟩
  have hfree : ∀ {α : Type} {found found' : Option α}, (¬ found = none → found' = found) →
      found' = none → found = none := by
    intro α found found' hsame hnone
    by_contra hnot
    exact hnot ((hsame hnot).symm.trans hnone)
  cases op with
  | addNote scheduler new => exact absurd rfl (hop scheduler new)
  | seed _ =>
    exact ⟨fun _ h => h, fun _ h => h, fun name => hfree (h.noteTypes name),
      fun id => hfree (h.decks id)⟩
  | ensureDeck _ => exact ⟨fun _ h => h, fun _ h => h, fun _ h => h, fun id => hfree (h.decks id)⟩
  | editNoteType _ _ _ _ =>
    exact ⟨fun id => htype (h.notes id), fun c => htype (h.notes c.noteId), fun _ h => h,
      fun _ h => h⟩
  | regenerate _ _ _ =>
    exact ⟨fun _ h => h, fun c => htype fun _ => h.notes c.noteId id, fun _ h => h, fun _ h => h⟩
  | updateNote _ _ | answerCard _ _ | updateCardFlags _ _ | deleteCards _ | findEmptyCards _
  | checkDuplicate _ _ | dueCards _ _ _ | deckStats _ _ => exact Scope.le_refl _

/-- An operation stays within its scope, and keeps notes. -/
theorem within_after (sound : Sound m) (op : Operation) :
    Within (m.scope op) m (op.after store m) ∧ NotesKept m (op.after store m) := by
  by_cases hop : ∃ scheduler new, op = .addNote scheduler new
  · -- adding a note is one change, after which another id is the next one
    obtain ⟨scheduler, new, rfl⟩ := hop
    rcases after_addNote scheduler new m with h | h
    · rw [h]
      exact ⟨.refl _ m, .of_eq rfl⟩
    · exact ⟨within_change sound h, notesKept_change sound h⟩
  · have step : ∀ m₁ m₂, Change op m₁ m₂ →
        (Within (m.scope op) m m₁ ∧ NotesKept m m₁) ∧ Sound m₁ →
          (Within (m.scope op) m m₂ ∧ NotesKept m m₂) ∧ Sound m₂ := by
      rintro m₁ m₂ hchange ⟨⟨within, kept⟩, sound₁⟩
      have hle := scope_le (fun scheduler new heq => hop ⟨scheduler, new, heq⟩) within
      exact ⟨⟨within.trans (within_change sound₁ hchange) hle,
        kept.trans (notesKept_change sound₁ hchange)⟩, sound₁.change hchange⟩
    exact (after_invariant step ⟨⟨.refl _ m, .of_eq rfl⟩, sound⟩).1

/-- **An operation touches only what it is asked for**, granted or refused, on each store that
operations and planted faults lead to: all notes, cards with their reviews, note types and decks
outside its scope are as they were. And none of the notes goes or becomes another one. -/
theorem touches_only_scope (events : List Event) (op : Operation) :
    Within ((reached events).scope op) (reached events) (op.after store (reached events)) ∧
      NotesKept (reached events) (op.after store (reached events)) :=
  within_after (sound_reached events) op

end Memory

end Flashcard
