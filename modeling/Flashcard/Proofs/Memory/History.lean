import Flashcard.Proofs.Memory.Batch

/-!
# The history of a card

What a user has done with a card outlives whatever happens to its note. As long as the note has a
card of the same identity it is the same card, in the same deck, with the same state, marks and
reviews. Only an answer to the card itself and an update of its marks change these, and neither of
them changes what a card shows.

- `Event`, `reached`: the stores that operations and planted faults lead to.
- `HistoryKept`: what a card keeps.
- `SameNote.historyKept`, `FittedNote.historyKept`: notes that are left alone, and fitted ones.
- `history_survives`: every operation keeps the history of every card.
-/

namespace Flashcard

namespace Memory

open Collection

/-! ## Reachable stores -/

/-- What can happen to a store. -/
inductive Event where
  | operation (op : Operation)
  | failNote (id : NoteId)
  | spoilNote (id : NoteId) (typeName reason : String)

/-- The store after an event. -/
def Event.apply : Event → Memory → Memory
  | operation op, m => op.after store m
  | failNote id, m => m.failNote id
  | spoilNote id typeName reason, m => m.spoilNote id typeName reason

/-- The store that events lead to from the empty one. -/
def reached (events : List Event) : Memory := events.foldl (fun m event => event.apply m) {}

/-- Events keep memory sound. -/
theorem Sound.apply {m : Memory} (h : Sound m) (event : Event) : Sound (event.apply m) := by
  cases event with
  | operation op => exact h.after op
  | failNote id => exact sound_failNote h id
  | spoilNote id typeName reason => exact sound_spoilNote h id typeName reason

/-- So all that is reached is sound. -/
theorem sound_reached (events : List Event) : Sound (reached events) := by
  have hall : ∀ {m : Memory}, Sound m →
      Sound (events.foldl (fun m event => event.apply m) m) := by
    induction events with
    | nil => exact id
    | cons event rest ih => exact fun h => ih (h.apply event)
  exact hall sound_empty

/-! ## What a card keeps -/

/-- What becomes of the history of a card, when `c'` is in the place of `c` after an operation. -/
structure HistoryKept (op : Operation) (m m' : Memory) (c c' : Card) : Prop where
  id : c'.id = c.id
  deck : c'.deckId = c.deckId
  /-- Only an answer to the card gives it another state, and adds one review to its reviews. -/
  study : (c'.scheduling = c.scheduling ∧ m'.reviewsOf c'.id = m.reviewsOf c.id) ∨
    ∃ scheduler answer next review, op = .answerCard scheduler answer ∧ answer.cardId = c.id ∧
      scheduler.answer? c.scheduling answer.rating answer.now = some (next, review) ∧
      c'.scheduling = next ∧ m'.reviewsOf c'.id =
        m.reviewsOf c.id ++ [{ review with timeTakenMs := answer.timeTakenMs }]
  /-- Only an update of the card's marks gives it other ones. -/
  marks : (c'.flag = c.flag ∧ c'.marked = c.marked ∧ c'.suspended = c.suspended) ∨
    ∃ update, op = .updateCardFlags c.id update

variable {op : Operation} {m m' : Memory} {n : NoteId} {c c' : Card}

/-- A card that changes its sides only keeps its history. -/
theorem historyKept_of_content {front back : String} {usn : Usn}
    (hcard : c' = { c with front, back, usn }) (hreviews : m'.reviewsOf c.id = m.reviewsOf c.id) :
    HistoryKept op m m' c c' := by
  subst hcard
  exact ⟨rfl, rfl, Or.inl ⟨rfl, hreviews⟩, Or.inl ⟨rfl, rfl, rfl⟩⟩

/-- In the cards of one note there is one of each identity. -/
theorem Sound.single_cardsOf (sound : Sound m) (n : NoteId) :
    ∀ c ∈ m.cardsOf n, ∀ c' ∈ m.cardsOf n, c.identity = c'.identity → c = c' := by
  intro c hc c' hc' hidentity
  obtain ⟨hholds, hn⟩ := (mem_cardsOf sound.keyed).mp hc
  obtain ⟨hholds', hn'⟩ := (mem_cardsOf sound.keyed).mp hc'
  exact sound.single c c' hholds hholds' (hn.trans hn'.symm) hidentity

/-- A card of a note that is left alone keeps its history. -/
theorem SameNote.historyKept (sound : Sound m) (h : SameNote n m m') (hc : c ∈ m.cardsOf n)
    (hc' : c' ∈ m'.cardsOf n) (hidentity : c'.identity = c.identity) :
    HistoryKept op m m' c c' := by
  obtain rfl := sound.single_cardsOf n c' (h.cards ▸ hc') c hc hidentity
  exact historyKept_of_content rfl (h.reviews c' hc)

/-- A card that a plan leaves there keeps its history. -/
theorem FittedNote.historyKept (sound : Sound m) {r : Regenerator} {nt : NoteType} {note : Note}
    {first : CardId} (h : FittedNote n (r.fit nt note (m.cardsOf n) first) m m')
    (hc : c ∈ m.cardsOf n) (hc' : c' ∈ m'.cardsOf n) (hidentity : c'.identity = c.identity) :
    HistoryKept op m m' c c' := by
  obtain ⟨⟨front, back, usn, hcard⟩, hkept⟩ := Reconcile.survivor_of_mem_outcome _ _ _ _
    (nodup_ids_cardsOf sound.keyed n) (sound.single_cardsOf n) hc (h.cards.mem_iff.mp hc') hidentity
  exact historyKept_of_content hcard (h.reviews c hc hkept)

/-! ## Operation by operation -/

/-- Making cards anew keeps the history of each card. -/
theorem historyKept_regenerate (sound : Sound m) {scheduler : Scheduler} {typeName : String}
    {options : RegenerationOptions} (hc : c ∈ m.cardsOf n)
    (hc' : c' ∈ (left (regenerate store scheduler typeName options) m).cardsOf n)
    (hidentity : c'.identity = c.identity) :
    HistoryKept op m (left (regenerate store scheduler typeName options) m) c c' := by
  rw [left_regenerate] at hc' ⊢
  cases hget : m.noteTypes.get? typeName with
  | none =>
    rw [hget] at hc'
    exact (SameNote.refl n m).historyKept sound hc hc' hidentity
  | some nt =>
    rw [hget] at hc'
    dsimp only at hc' ⊢
    -- a batch fits the cards of the listed notes and leaves all other cards alone
    by_cases hlisted : ∃ note, .ok note ∈ m.listed typeName ∧ note.id = n
    · obtain ⟨note, hnote, rfl⟩ := hlisted
      rcases run_listed _ nt _ _ sound.keyed
        (nodup_idsOf_listed sound.filed typeName) hnote with ⟨hsame, -⟩ | ⟨-, first, -, hfits⟩
      · exact hsame.historyKept sound hc hc' hidentity
      · exact hfits.historyKept sound hc hc' hidentity
    · refine SameNote.historyKept sound ?_ hc hc' hidentity
      exact run_other _ nt _ _ sound.keyed fun note hnote hid => hlisted ⟨note, hnote, hid⟩

/-- An edit of its note type leaves a card its history. -/
theorem historyKept_editNoteType (sound : Sound m) {scheduler : Scheduler} {typeName : String}
    {edit : NoteTypeEdit} {options : RegenerationOptions} (hc : c ∈ m.cardsOf n)
    (hc' : c' ∈ ((Operation.editNoteType scheduler typeName edit options).after store m).cardsOf n)
    (hidentity : c'.identity = c.identity) :
    HistoryKept op m ((Operation.editNoteType scheduler typeName edit options).after store m)
      c c' := by
  rcases after_editNoteType scheduler typeName edit options m with h | ⟨nt, edited, hnt, hedit, h⟩
  · rw [h] at hc' ⊢
    exact (SameNote.refl n m).historyKept sound hc hc' hidentity
  · rw [h] at hc' ⊢
    -- saving the type and its notes touches no card, so only the batch after it counts
    have hsaved : SameNote n m
        (m.writeNoteType edited (editedNotes edit (m.listed typeName) (m.usn + 1))) :=
      .of_eq (cards_writeNoteType ..) (reviews_writeNoteType ..)
    have sound' := sound.change
      (.edit hnt hedit : Change (.editNoteType scheduler typeName edit options) m _)
    split at hc'
    · next haffects =>
      rw [if_pos haffects]
      have hkept : HistoryKept op _ _ c c' :=
        historyKept_regenerate sound' (hsaved.cards ▸ hc) hc' hidentity
      refine ⟨hkept.id, hkept.deck, ?_, hkept.marks⟩
      rw [← hsaved.reviews c hc]
      exact hkept.study
    · next haffects =>
      rw [if_neg haffects]
      exact hsaved.historyKept sound hc hc' hidentity

/-- Other cards keep their records. -/
theorem reviewsOf_dropCard {id id' : CardId} (hne : id' ≠ id) :
    (m.dropCard id).reviewsOf id' = m.reviewsOf id' := by
  rw [reviewsOf, dropCard, List.filter_filter, reviewsOf]
  congr 1
  refine List.filter_congr ?_
  intro e _
  by_cases he : e.1 = id' <;> simp [he, hne]

/-- A deletion leaves all other cards and their reviews as they were. -/
theorem holds_after_deleteCards {ids : List CardId}
    (h : ((Operation.deleteCards ids).after store m).Holds c) :
    m.Holds c ∧ ((Operation.deleteCards ids).after store m).reviewsOf c.id = m.reviewsOf c.id := by
  -- each deletion takes one card with its own reviews
  have step : ∀ m₁ m₂, Change (.deleteCards ids) m₁ m₂ →
      (∀ c, m₁.Holds c → m.Holds c ∧ m₁.reviewsOf c.id = m.reviewsOf c.id) →
        ∀ c, m₂.Holds c → m.Holds c ∧ m₂.reviewsOf c.id = m.reviewsOf c.id := by
    intro m₁ m₂ hchange hkept c hc
    cases hchange with
    | deletion _ =>
      obtain ⟨hne, hc⟩ := holds_dropCard.mp hc
      rw [reviewsOf_dropCard hne]
      exact hkept c hc
  exact after_invariant step (fun c hc => ⟨hc, rfl⟩) c h

/-- An answer adds one record to one card. -/
theorem reviewsOf_writeAnswer (c : Card) (id id' : CardId) (review : Review) :
    (m.writeAnswer c id review).reviewsOf id' =
      if id' = id then m.reviewsOf id' ++ [review] else m.reviewsOf id' := by
  rw [reviewsOf, writeAnswer, List.filter_append, List.map_append, reviewsOf]
  by_cases hid : id' = id
  · simp [hid]
  · simp [hid, Ne.symm hid]

/-- An answer changes one card's scheduling and adds its record. -/
theorem historyKept_answerCard (sound : Sound m) {scheduler : Scheduler} {answer : Answer}
    (hchange : Change (.answerCard scheduler answer) m m') (hc : c ∈ m.cardsOf n)
    (hc' : c' ∈ m'.cardsOf n) (hidentity : c'.identity = c.identity) (keyed' : m'.Keyed) :
    HistoryKept (.answerCard scheduler answer) m m' c c' := by
  obtain ⟨hholds, hn⟩ := (mem_cardsOf sound.keyed).mp hc
  obtain ⟨hholds', hn'⟩ := (mem_cardsOf keyed').mp hc'
  cases hchange with
  | @answer _ _ c₀ next review _ found answered =>
    have hholds₀ := holds_of_get? sound.keyed found
    have hid₀ : c₀.id = answer.cardId := sound.keyed _ _ found
    -- the card is the answered one, or it was there before
    rcases holds_putCard.mp hholds' with rfl | ⟨hne, hholds'⟩
    · obtain rfl := sound.single c₀ c hholds₀ hholds (hn'.trans hn.symm) hidentity
      refine ⟨rfl, rfl, Or.inr ⟨scheduler, answer, next, review, rfl, hid₀.symm, answered, rfl, ?_⟩,
        Or.inl ⟨rfl, rfl, rfl⟩⟩
      rw [reviewsOf_writeAnswer, if_pos hid₀]
    · obtain rfl := sound.single c' c hholds' hholds (hn'.trans hn.symm) hidentity
      refine historyKept_of_content rfl ?_
      rw [reviewsOf_writeAnswer, if_neg (hid₀ ▸ hne)]

/-- New marks change nothing else. -/
theorem historyKept_updateCardFlags (sound : Sound m) {id : CardId} {update : CardFlagsUpdate}
    (hchange : Change (.updateCardFlags id update) m m') (hc : c ∈ m.cardsOf n)
    (hc' : c' ∈ m'.cardsOf n) (hidentity : c'.identity = c.identity) (keyed' : m'.Keyed) :
    HistoryKept (.updateCardFlags id update) m m' c c' := by
  obtain ⟨hholds, hn⟩ := (mem_cardsOf sound.keyed).mp hc
  obtain ⟨hholds', hn'⟩ := (mem_cardsOf keyed').mp hc'
  cases hchange with
  | @flags _ _ c₀ _ found =>
    have hholds₀ := holds_of_get? sound.keyed found
    obtain rfl := sound.keyed _ _ found
    -- the card is the marked one, or it was there before
    rcases holds_putCard.mp hholds' with rfl | ⟨hne, hholds'⟩
    · obtain rfl := sound.single c₀ c hholds₀ hholds (hn'.trans hn.symm) hidentity
      exact ⟨rfl, rfl, Or.inl ⟨rfl, rfl⟩, Or.inr ⟨update, rfl⟩⟩
    · obtain rfl := sound.single c' c hholds' hholds (hn'.trans hn.symm) hidentity
      exact historyKept_of_content rfl rfl

/-- A new note leaves the others alone. -/
theorem sameNote_newNote (sound : Sound m) {scheduler : Scheduler} {new : NewNote}
    (hchange : Change (.addNote scheduler new) m m') (hc : c ∈ m.cardsOf n) : SameNote n m m' := by
  cases hchange with
  | @newNote _ _ nt note _ _ _ _ note_eq =>
    have hid : note.id = Store.nextId m.notes := note_eq ▸ rfl
    have fit := isFit_fit (m.regenerator scheduler new.deck new.now) nt note m
    rw [hid, cardsOf_nextId sound, ← hid] at fit
    -- the new note had no cards, so the card at hand is one of another note
    refine fit.sameNote_writeNote sound.keyed ?_
    intro hn
    rw [hn, hid, cardsOf_nextId sound] at hc
    cases hc

/-- A change of a note leaves its cards their history. -/
theorem historyKept_noteChange (sound : Sound m) {scheduler : Scheduler} {change : NoteChange}
    (hchange : Change (.updateNote scheduler change) m m') (hc : c ∈ m.cardsOf n)
    (hc' : c' ∈ m'.cardsOf n) (hidentity : c'.identity = c.identity) :
    HistoryKept op m m' c c' := by
  cases hchange with
  | @noteChange _ _ nt old note _ found typed named note_eq =>
    have fit := isFit_fit (m.regenerator scheduler change.defaultDeck change.now) nt note m
    -- the cards of the note itself are fitted, those of others are not touched
    by_cases hn : n = note.id
    · subst hn
      exact (fit.fittedNote_writeNote sound.keyed).historyKept sound hc hc' hidentity
    · exact (fit.sameNote_writeNote sound.keyed hn).historyKept sound hc hc' hidentity

/-- A new deck leaves all notes alone. -/
theorem sameNote_newDeck {name : String} (hchange : Change (.ensureDeck name) m m') :
    SameNote n m m' := by
  cases hchange with
  | newDeck _ => exact .of_eq rfl rfl

/-- Each operation keeps the history of each card. -/
theorem historyKept_after (sound : Sound m) (op : Operation) (hc : c ∈ m.cardsOf n)
    (hc' : c' ∈ (op.after store m).cardsOf n) (hidentity : c'.identity = c.identity) :
    HistoryKept op m (op.after store m) c c' := by
  have of_same : SameNote n m (op.after store m) → HistoryKept op m (op.after store m) c c' :=
    fun h => h.historyKept sound hc hc' hidentity
  have of_eq : op.after store m = m → HistoryKept op m (op.after store m) c c' := by
    intro h
    refine of_same ?_
    rw [h]
    exact .refl n m
  have keyed' := (sound.after op).keyed
  cases op with
  | seed deckName =>
    -- seeding only writes note types and a deck
    have hsame : ((Operation.seed deckName).after store m).cards = m.cards ∧
        ((Operation.seed deckName).after store m).reviews = m.reviews := by
      have step : ∀ m₁ m₂, Change (.seed deckName) m₁ m₂ →
          m₁.cards = m.cards ∧ m₁.reviews = m.reviews →
            m₂.cards = m.cards ∧ m₂.reviews = m.reviews := by
        intro m₁ m₂ hchange h
        cases hchange <;> exact h
      exact after_invariant step ⟨rfl, rfl⟩
    exact of_same (.of_eq hsame.1 hsame.2)
  | ensureDeck name =>
    rcases after_ensureDeck name m with h | h
    · exact of_eq h
    · exact of_same (sameNote_newDeck h)
  | addNote scheduler new =>
    rcases after_addNote scheduler new m with h | h
    · exact of_eq h
    · exact of_same (sameNote_newNote sound h hc)
  | updateNote scheduler change =>
    rcases after_updateNote scheduler change m with h | h
    · exact of_eq h
    · exact historyKept_noteChange sound h hc hc' hidentity
  | editNoteType scheduler typeName edit options =>
    exact historyKept_editNoteType sound hc hc' hidentity
  | regenerate scheduler typeName options =>
    rw [after_regenerate] at hc' ⊢
    exact historyKept_regenerate sound hc hc' hidentity
  | answerCard scheduler answer =>
    rcases after_answerCard scheduler answer m with h | h
    · exact of_eq h
    · exact historyKept_answerCard sound h hc hc' hidentity keyed'
  | updateCardFlags id update =>
    rcases after_updateCardFlags id update m with h | h
    · exact of_eq h
    · exact historyKept_updateCardFlags sound h hc hc' hidentity keyed'
  | deleteCards ids =>
    obtain ⟨hholds', hn'⟩ := (mem_cardsOf keyed').mp hc'
    obtain ⟨hholds', hreviews⟩ := holds_after_deleteCards hholds'
    have hmem := (mem_cardsOf sound.keyed).mpr ⟨hholds', hn'⟩
    obtain rfl := sound.single_cardsOf n c' hmem c hc hidentity
    exact historyKept_of_content rfl hreviews
  | findEmptyCards typeName => exact of_eq (after_question _ _ _)
  | checkDuplicate typeName query => exact of_eq (after_question _ _ _)
  | dueCards deck now limit => exact of_eq (after_question _ _ _)
  | deckStats deck now => exact of_eq (after_question _ _ _)

/-! ## What cards show -/

/-- What each card shows, and as which card of its note. -/
def drafts (m : Memory) (id : CardId) : Option CardDraft := (m.cards.get? id).map Card.draft

/-- A card with the same draft does not change the drafts. -/
theorem drafts_putCard {id : CardId} {c c' : Card} (hc : m.cards.get? id = some c)
    (hid : c'.id = id) (hdraft : c'.draft = c.draft) : (m.putCard c').drafts = m.drafts := by
  funext id'
  rw [drafts, putCard, SortedMap.get?_insert, drafts]
  split
  · next h =>
    rw [h, hid, hc]
    exact congrArg some hdraft
  · rfl

/-- An answer changes nothing that a card shows. -/
theorem drafts_after_answerCard (sound : Sound m) (scheduler : Scheduler) (answer : Answer) :
    ((Operation.answerCard scheduler answer).after store m).drafts = m.drafts := by
  have hchange : ∀ m', Change (.answerCard scheduler answer) m m' → m'.drafts = m.drafts := by
    intro m' hchange
    cases hchange with
    | answer found _ =>
      have hid := sound.keyed _ _ found
      exact drafts_putCard found hid rfl
  rcases after_answerCard scheduler answer m with h | h
  · rw [h]
  · exact hchange _ h

/-- An update of marks changes nothing that a card shows. -/
theorem drafts_after_updateCardFlags (sound : Sound m) (id : CardId) (update : CardFlagsUpdate) :
    ((Operation.updateCardFlags id update).after store m).drafts = m.drafts := by
  have hchange : ∀ m', Change (.updateCardFlags id update) m m' → m'.drafts = m.drafts := by
    intro m' hchange
    cases hchange with
    | flags found =>
      have hid := sound.keyed _ _ found
      exact drafts_putCard found hid rfl
  rcases after_updateCardFlags id update m with h | h
  · rw [h]
  · exact hchange _ h

/-! ## Every operation on every store -/

/-- **The history of a card survives** each operation on each store that operations and faults lead
to, granted or refused: a card that is there before and afterwards keeps all but its content, unless
it is the card that is answered or marked. Answers and marks in turn leave the content of all cards
alone. -/
theorem history_survives (events : List Event) (op : Operation) :
    (∀ c ∈ (reached events).cards.values, ∀ c' ∈ (op.after store (reached events)).cards.values,
      c'.noteId = c.noteId → c'.identity = c.identity →
        HistoryKept op (reached events) (op.after store (reached events)) c c') ∧
    ((∃ scheduler answer, op = .answerCard scheduler answer) ∨
        (∃ id update, op = .updateCardFlags id update) →
      (op.after store (reached events)).drafts = (reached events).drafts) := by
  have sound := sound_reached events
  constructor
  · intro c hc c' hc' hn hidentity
    have hmem : c ∈ (reached events).cardsOf c.noteId :=
      List.mem_filter.mpr ⟨hc, beq_iff_eq.mpr rfl⟩
    have hmem' : c' ∈ (op.after store (reached events)).cardsOf c.noteId :=
      List.mem_filter.mpr ⟨hc', beq_iff_eq.mpr hn⟩
    exact historyKept_after sound op hmem hmem' hidentity
  · rintro (⟨scheduler, answer, rfl⟩ | ⟨id, update, rfl⟩)
    · exact drafts_after_answerCard sound scheduler answer
    · exact drafts_after_updateCardFlags sound id update

/-- A collection with one card, which was marked. -/
def marked : List Event :=
  [.operation (.seed "Default"),
    .operation (.addNote {} ⟨"Basic", 1, .ofList [("Front", "F"), ("Back", "B")], [], ⟨0, 0⟩⟩),
    .operation (.updateCardFlags 1 { flag := some 3 })]

/-- A change of the note gives the marked card another front, and no other history. -/
theorem history_survives_noteChange :
    let op : Operation := .updateNote {} ⟨1, .ofList [("Front", "G")], none, 1, ⟨90, 0⟩⟩
    ∃ c ∈ (reached marked).cards.values, ∃ c' ∈ (op.after store (reached marked)).cards.values,
      c'.front ≠ c.front ∧ c.flag = 3 ∧
        HistoryKept op (reached marked) (op.after store (reached marked)) c c' := by
  intro op
  refine ⟨(reached marked).cards.values.head (by decide +kernel), List.head_mem _,
    (op.after store (reached marked)).cards.values.head (by decide +kernel), List.head_mem _,
    by decide +kernel, by decide +kernel, ?_⟩
  exact (history_survives marked op).1 _ (List.head_mem _) _ (List.head_mem _)
    (by decide +kernel) (by decide +kernel)

end Memory

end Flashcard
