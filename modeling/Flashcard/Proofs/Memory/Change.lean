import Flashcard.Proofs.Batch
import Flashcard.Proofs.Memory.Cards
import Flashcard.Proofs.Planning
import Mathlib.Logic.Relation

/-!
# Operations as single changes

Whatever operation a collection in memory carries out, it takes the collection through a few single
changes of a few kinds. What each kind of change keeps, each operation keeps.

- `Memory.Change`: the single changes that an operation is made of.
- `Memory.after_addNote` and its like: what each operation comes to.
- `Memory.changes`: an operation takes the collection through its changes.
-/

namespace Flashcard

namespace Memory

open Collection

/-! ## What is seen before a change -/

/-- Deck ids by name. -/
def deckIds (m : Memory) : SortedMap String DeckId :=
  SortedMap.ofList (m.decks.values.map fun deck => (deck.name, deck.id))

/-- What the notes of a batch that begins here have in common. -/
def regenerator (m : Memory) (scheduler : Scheduler) (defaultDeck : DeckId) (now : Timestamp) :
    Regenerator where
  scheduler := scheduler
  decks := m.deckIds
  defaultDeck := defaultDeck
  usn := m.usn + 1
  now := now

/-- The notes of a type, as they are listed. -/
def listed (m : Memory) (typeName : String) : List (Except StoreError Note) :=
  (m.notes.entries.filter fun e => typeOf e.2 == typeName).map fun e => readNote e.1 e.2

/-- The store with a note type and changed notes of it written. -/
def writeNoteType (m : Memory) (nt : NoteType) (notes : List Note) : Memory :=
  (notes.foldl (fun m note => (m.putNote note).raiseUsn note.usn) m).putNoteType nt

/-- Notes that are put one after the other change the notes and the update sequence number only. -/
theorem foldl_putNote (notes : List Note) (m : Memory) :
    notes.foldl (fun m note => (m.putNote note).raiseUsn note.usn) m =
      { m with
        notes := notes.foldl (fun kept note => kept.insert note.id (.readable note)) m.notes
        usn := notes.foldl (fun usn note => max usn note.usn) m.usn } := by
  induction notes generalizing m with
  | nil => rfl
  | cons note rest ih => exact ih ((m.putNote note).raiseUsn note.usn)

/-- A note type that is written with its notes changes the note types, the notes and the update
sequence number only. -/
theorem writeNoteType_eq (m : Memory) (nt : NoteType) (notes : List Note) :
    m.writeNoteType nt notes =
      { m with
        noteTypes := m.noteTypes.insert nt.name nt
        notes := notes.foldl (fun kept note => kept.insert note.id (.readable note)) m.notes
        usn := notes.foldl (fun usn note => max usn note.usn) m.usn } := by
  rw [writeNoteType, foldl_putNote]
  rfl

section Fields

variable (m : Memory) (nt : NoteType) (notes : List Note)

@[simp] theorem noteTypes_writeNoteType :
    (m.writeNoteType nt notes).noteTypes = m.noteTypes.insert nt.name nt := by rw [writeNoteType_eq]

@[simp] theorem cards_writeNoteType : (m.writeNoteType nt notes).cards = m.cards := by
  rw [writeNoteType_eq]

@[simp] theorem decks_writeNoteType : (m.writeNoteType nt notes).decks = m.decks := by
  rw [writeNoteType_eq]

@[simp] theorem reviews_writeNoteType : (m.writeNoteType nt notes).reviews = m.reviews := by
  rw [writeNoteType_eq]

@[simp] theorem failing_writeNoteType : (m.writeNoteType nt notes).failing = m.failing := by
  rw [writeNoteType_eq]

/-- And so the cards of a note stay. -/
theorem cardsOf_writeNoteType (n : NoteId) :
    (m.writeNoteType nt notes).cardsOf n = m.cardsOf n := by
  rw [cardsOf, cards_writeNoteType, cardsOf]

end Fields

/-- The store with another deck. -/
def addDeck (m : Memory) (name : String) : Memory :=
  { m with decks := m.decks.insert (Store.nextId m.decks) ⟨Store.nextId m.decks, name⟩ }

/-- The store with a card's new state and the review behind it written. -/
def writeAnswer (m : Memory) (c : Card) (id : CardId) (review : Review) : Memory :=
  { m.putCard c with
    reviews := m.reviews ++ [(id, review)]
    usn := max m.usn c.usn }

/-! ## Kinds of changes -/

/-- What a batch does to the cards of one note: they are fitted to it. -/
inductive Refit (scheduler : Scheduler) (typeName : String) (options : RegenerationOptions) :
    Memory → Memory → Prop where
  | fit {r : Regenerator} {nt : NoteType} {id : NoteId} {note : Note} {m : Memory}
      (scheduler_eq : r.scheduler = scheduler) (deck_eq : r.defaultDeck = options.defaultDeck)
      (now_eq : r.now = options.now) (decks_eq : r.decks = m.deckIds) (usn_le : m.usn ≤ r.usn)
      (found : m.notes.get? id = some (.readable note)) (typeName_eq : note.typeName = typeName)
      (typed : m.noteTypes.get? typeName = some nt) (named : nt.name = typeName) :
      Refit scheduler typeName options m
        (m.writePlan (r.fit nt note (m.cardsOf note.id) (Store.nextId m.cards)))

/-- The single changes that an operation is made of. -/
inductive Change : Operation → Memory → Memory → Prop where
  /-- A stock note type that was missing. -/
  | stockType {deckName : String} {nt : NoteType} {m : Memory} (stock : nt ∈ NoteType.stock)
      (absent : m.noteTypes.get? nt.name = none) :
      Change (.seed deckName) m (m.putNoteType nt)
  /-- The deck of a new collection, if it was missing. -/
  | stockDeck {name : String} {m : Memory} (absent : ∀ deck ∈ m.decks.values, deck.name ≠ name) :
      Change (.seed name) m (m.addDeck name)
  /-- A deck that was missing. -/
  | newDeck {name : String} {m : Memory} (absent : ∀ deck ∈ m.decks.values, deck.name ≠ name) :
      Change (.ensureDeck name) m (m.addDeck name)
  /-- A new note with its cards. -/
  | newNote {scheduler : Scheduler} {new : NewNote} {nt : NoteType} {note : Note} {m : Memory}
      (typed : m.noteTypes.get? new.typeName = some nt) (named : nt.name = new.typeName)
      (deck : m.decks.contains new.deck = true)
      (note_eq : note = new.note (Store.nextId m.notes) (m.usn + 1)) :
      Change (.addNote scheduler new) m (m.writeNote note
        ((m.regenerator scheduler new.deck new.now).fit nt note [] (Store.nextId m.cards)))
  /-- A changed note, with its cards fitted to it. -/
  | noteChange {scheduler : Scheduler} {change : NoteChange} {nt : NoteType} {old note : Note}
      {m : Memory} (found : m.notes.get? change.noteId = some (.readable old))
      (typed : m.noteTypes.get? old.typeName = some nt) (named : nt.name = old.typeName)
      (note_eq : note = change.note old (m.usn + 1)) :
      Change (.updateNote scheduler change) m (m.writeNote note
        ((m.regenerator scheduler change.defaultDeck change.now).fit nt note (m.cardsOf note.id)
          (Store.nextId m.cards)))
  /-- An edited note type, with what the edit does to the fields of its notes. -/
  | edit {scheduler : Scheduler} {typeName : String} {edit : NoteTypeEdit}
      {options : RegenerationOptions} {nt edited : NoteType} {m : Memory}
      (typed : m.noteTypes.get? typeName = some nt) (edited_eq : nt.edit edit = .ok edited) :
      Change (.editNoteType scheduler typeName edit options) m
        (m.writeNoteType edited (editedNotes edit (m.listed typeName) (m.usn + 1)))
  /-- The cards of one note of an edited type. -/
  | editedCards {scheduler : Scheduler} {typeName : String} {edit : NoteTypeEdit}
      {options : RegenerationOptions} {m m' : Memory}
      (refit : Refit scheduler typeName options m m') :
      Change (.editNoteType scheduler typeName edit options) m m'
  /-- The cards of one note of a type whose cards are made anew. -/
  | newCards {scheduler : Scheduler} {typeName : String} {options : RegenerationOptions} {m m' : Memory}
      (refit : Refit scheduler typeName options m m') :
      Change (.regenerate scheduler typeName options) m m'
  /-- An answer to a card. -/
  | answer {scheduler : Scheduler} {answer : Answer} {c : Card} {next : SchedulingState}
      {review : Review} {m : Memory} (found : m.cards.get? answer.cardId = some c)
      (answered : scheduler.answer? c.scheduling answer.rating answer.now = some (next, review)) :
      Change (.answerCard scheduler answer) m
        (m.writeAnswer { c with scheduling := next, usn := m.usn + 1 } answer.cardId
          { review with timeTakenMs := answer.timeTakenMs })
  /-- The marks of a card. -/
  | flags {id : CardId} {update : CardFlagsUpdate} {c : Card} {m : Memory}
      (found : m.cards.get? id = some c) :
      Change (.updateCardFlags id update) m
        ((m.putCard
          { c with
            flag := update.flag.getD c.flag
            marked := update.marked.getD c.marked
            suspended := update.suspended.getD c.suspended
            usn := m.usn + 1 }).raiseUsn (m.usn + 1))
  /-- A card that goes, with its reviews. -/
  | deletion {ids : List CardId} {id : CardId} {m : Memory} (asked : id ∈ ids) :
      Change (.deleteCards ids) m (m.dropCard id)

/-! ## What each operation comes to -/

section Operations

variable {m : Memory}

theorem updateCard_eq (c : Card) (m : Memory) :
    store.updateCard c m = m.checked (m.checkCard c.id) () (m.putCard c) := rfl

theorem deleteCard_eq (id : CardId) (m : Memory) :
    store.deleteCard id m = m.checked (m.checkCard id) () (m.dropCard id) := rfl

theorem applyPlan_eq (plan : ReconcilePlan) (m : Memory) :
    store.applyPlan plan m = m.checked (m.checkPlan plan) () (m.writePlan plan) := rfl

theorem applyNotePlan_eq (note : Note) (plan : ReconcilePlan) (m : Memory) :
    store.applyNotePlan note plan m =
      m.checked (do m.checkNote note.id; m.checkPlan plan) () (m.writeNote note plan) := rfl

/-- A plan that has nothing to do leaves all but the note and its mark. -/
theorem applyNotePlan_of_isNoop {note : Note} {plan : ReconcilePlan} (h : plan.isNoop = true)
    (check : m.checkNote note.id = .ok ()) (own : plan.noteId = note.id) :
    store.applyNotePlan note plan m = .ok () ((m.putNote note).raiseUsn note.usn) := by
  obtain ⟨-, hupdate, hdelete⟩ := plan.isNoop_iff.mp h
  have hplan : m.checkPlan plan = .ok () := by
    rw [checkPlan, own, check, hupdate, hdelete]
    rfl
  rw [applyNotePlan_eq, check, hplan, writeNote, writePlan_of_isNoop h]
  rfl

theorem saveNoteTypeWithNotes_eq (nt : NoteType) (notes : List Note) (m : Memory) :
    store.saveNoteTypeWithNotes nt notes m =
      m.checked (notes.forM fun note => m.checkStored note.id) () (m.writeNoteType nt notes) := rfl

section Checked

variable {α β : Type} {update : Update Memory α} {check : Except StoreError Unit} {a : α}
  {after : Memory}

/-- What is checked goes through exactly if the check does. -/
theorem done_checked {b : α} {t : Memory} :
    m.checked check a after = .ok b t ↔ check = .ok () ∧ a = b ∧ after = t := by
  unfold checked
  cases check <;> simp

/-- A checked update is refused, and then leaves everything as it was, or is carried out. -/
theorem left_checked (h : update m = m.checked check a after) :
    left update m = m ∨ left update m = after := by
  unfold left
  rw [h]
  cases check with
  | ok u => exact Or.inr rfl
  | error e => exact Or.inl rfl

/-- Work that begins with a checked update stops there if it is refused. -/
theorem left_checked_bind (h : update m = m.checked check a after) (rest : α → Work Memory β) :
    left (write update >>= rest) m = m ∨
      left (write update >>= rest) m = left (rest a) after := by
  rw [left_bind, outcome_write, left_write]
  unfold outcome left
  rw [h]
  cases check with
  | ok u => exact Or.inr rfl
  | error e => exact Or.inl rfl

end Checked

/-- The cards of a note are read exactly if the note is not made to fail. -/
theorem cardsOfNote_eq_ok {n : NoteId} {cards : List Card} :
    cardsOfNote n m = .ok cards ↔ m.checkNote n = .ok () ∧ cards = m.cardsOf n := by
  rw [cardsOfNote, bind_eq_ok]
  constructor
  · rintro ⟨_, hcheck, hcards⟩
    exact ⟨hcheck, (pure_eq_ok.mp hcards).symm⟩
  · rintro ⟨hcheck, rfl⟩
    exact ⟨(), hcheck, rfl⟩

/-- A note is read exactly if it is stored and not corrupt. -/
theorem note?_eq_ok_some {id : NoteId} {note : Note} :
    note? id m = .ok (some note) ↔ m.notes.get? id = some (.readable note) := by
  rw [note?]
  cases m.notes.get? id with
  | none => simp
  | some stored => cases stored <;> simp [readNote, Except.map]

/-- A note is missing exactly if nothing is stored under its id. -/
theorem note?_eq_ok_none {id : NoteId} : note? id m = .ok none ↔ m.notes.get? id = none := by
  rw [note?]
  cases m.notes.get? id with
  | none => simp
  | some stored => cases stored <;> simp [readNote, Except.map]

/-- To add a note changes nothing, or makes one change. -/
theorem after_addNote (scheduler : Scheduler) (new : NewNote) (m : Memory) :
    (Operation.addNote scheduler new).after store m = m ∨
      Change (.addNote scheduler new) m ((Operation.addNote scheduler new).after store m) := by
  have hafter : (Operation.addNote scheduler new).after store m =
      left (addNote store scheduler new) m := left_map _ _ _
  rw [hafter, addNote_eq, left_bind, left_question, outcome_question]
  cases hplan : planNewNote store scheduler new m with
  | error e => exact Or.inl rfl
  | ok planned =>
    obtain ⟨note, plan⟩ := planned
    obtain ⟨nt, deck, _, _, _, _, hnt, hname, hdeck, ⟨⟩, ⟨⟩, ⟨⟩, ⟨⟩, hnote, rfl⟩ :=
      planNewNote_eq_ok.mp hplan
    dsimp only
    rw [left_bind_idle _ _ fun _ _ => rfl, left_write]
    refine (left_checked (applyNotePlan_eq note _ m)).imp_right ?_
    intro h
    rw [h]
    exact .newNote (Except.ok.inj hnt) hname
      (SortedMap.contains_iff.mpr ⟨deck, Except.ok.inj hdeck⟩) hnote

/-- To change a note changes nothing, or makes one change. -/
theorem after_updateNote (scheduler : Scheduler) (change : NoteChange) (m : Memory) :
    (Operation.updateNote scheduler change).after store m = m ∨
      Change (.updateNote scheduler change) m
        ((Operation.updateNote scheduler change).after store m) := by
  have hafter : (Operation.updateNote scheduler change).after store m =
      left (Collection.updateNote store scheduler change) m := left_map _ _ _
  rw [hafter, updateNote_eq, left_bind, left_question, outcome_question]
  cases hplan : planNoteChange store scheduler change m with
  | error e => exact Or.inl rfl
  | ok planned =>
    obtain ⟨note, plan⟩ := planned
    obtain ⟨old, nt, _, _, _, _, hold, hnt, hname, ⟨⟩, ⟨⟩, hcards, ⟨⟩, hnote, rfl⟩ :=
      planNoteChange_eq_ok.mp hplan
    obtain ⟨-, rfl⟩ := cardsOfNote_eq_ok.mp hcards
    have hid : old.id = note.id := hnote ▸ rfl
    dsimp only
    rw [left_bind_idle _ _ fun _ _ => rfl, left_write, hid]
    refine (left_checked (applyNotePlan_eq note _ m)).imp_right ?_
    intro h
    rw [h]
    exact .noteChange (note?_eq_ok_some.mp hold) (Except.ok.inj hnt) hname hnote

/-! ### Decks and stock note types -/

/-- A deck that is to be there is added if no deck has its name. -/
theorem left_ensureDeck (name : String) (m : Memory) :
    left (store.ensureDeck name) m = m ∨
      (∀ deck ∈ m.decks.values, deck.name ≠ name) ∧
        left (store.ensureDeck name) m = m.addDeck name := by
  have hlook : store.deckNamed? name m =
      .ok ((m.decks.values.find? (·.name == name)).map (·.id)) := rfl
  rw [Store.ensureDeck, left_bind, left_look, outcome_look, hlook]
  cases hfind : m.decks.values.find? (·.name == name) with
  | some deck => exact Or.inl rfl
  | none =>
    refine Or.inr ⟨?_, rfl⟩
    intro deck hdeck heq
    exact List.find?_eq_none.mp hfind deck hdeck (beq_iff_eq.mpr heq)

/-- A stock note type is put if there is none of its name. -/
theorem left_seedNoteType (nt : NoteType) (m : Memory) :
    left (seedNoteType store nt) m = m ∨
      m.noteTypes.get? nt.name = none ∧ left (seedNoteType store nt) m = m.putNoteType nt := by
  have hask : store.noteType? nt.name m = .ok (m.noteTypes.get? nt.name) := rfl
  rw [seedNoteType, left_bind, left_ask, outcome_ask, hask]
  cases m.noteTypes.get? nt.name with
  | some _ => exact Or.inl rfl
  | none => exact Or.inr ⟨rfl, rfl⟩

/-- To put a stock note type always succeeds. -/
theorem outcome_seedNoteType (nt : NoteType) (m : Memory) :
    outcome (seedNoteType store nt) m = .ok () := by
  have hask : store.noteType? nt.name m = .ok (m.noteTypes.get? nt.name) := rfl
  rw [seedNoteType, outcome_bind, left_ask, outcome_ask, hask]
  cases m.noteTypes.get? nt.name <;> rfl

/-- The stock note types are put one change after the other. -/
theorem changes_seedNoteTypes (deckName : String) {types : List NoteType}
    (stock : ∀ nt ∈ types, nt ∈ NoteType.stock) (m : Memory) :
    outcome (types.forM (seedNoteType store)) m = .ok () ∧
      Relation.ReflTransGen (Change (.seed deckName)) m
        (left (types.forM (seedNoteType store)) m) := by
  induction types generalizing m with
  | nil => exact ⟨rfl, .refl⟩
  | cons nt rest ih =>
    have hrest := ih (fun nt hnt => stock nt (List.mem_cons_of_mem _ hnt))
      (left (seedNoteType store nt) m)
    rw [List.forM_eq_forM, List.forM_cons, outcome_bind, left_bind, outcome_seedNoteType]
    refine ⟨hrest.1, ?_⟩
    rcases left_seedNoteType nt m with h | ⟨habsent, h⟩
    · rw [h] at hrest ⊢
      exact hrest.2
    · -- the type was missing, so saving it is a change before those of the rest
      refine .head ?_ hrest.2
      rw [h]
      exact .stockType (stock nt (List.mem_cons_self ..)) habsent

/-- To have a deck there changes nothing, or makes one change. -/
theorem after_ensureDeck (name : String) (m : Memory) :
    (Operation.ensureDeck name).after store m = m ∨
      Change (.ensureDeck name) m ((Operation.ensureDeck name).after store m) := by
  have hafter : (Operation.ensureDeck name).after store m = left (store.ensureDeck name) m :=
    (left_map _ _ _).trans (left_write _ _)
  rw [hafter]
  refine (left_ensureDeck name m).imp_right fun ⟨habsent, h⟩ => ?_
  rw [h]
  exact .newDeck habsent

/-- A collection is made one change after the other. -/
theorem changes_seed (deckName : String) (m : Memory) :
    Relation.ReflTransGen (Change (.seed deckName)) m
      ((Operation.seed deckName).after store m) := by
  have hafter : (Operation.seed deckName).after store m = left (seed store deckName) m :=
    left_map _ _ _
  obtain ⟨hok, hchanges⟩ := changes_seedNoteTypes deckName (fun _ h => h) m
  rw [hafter, seed, left_bind, hok]
  refine hchanges.trans ?_
  show Relation.ReflTransGen _ _ (left (write (store.ensureDeck deckName)) _)
  rw [left_write]
  rcases left_ensureDeck deckName (left (NoteType.stock.forM (seedNoteType store)) m) with
    h | ⟨habsent, h⟩
  · rw [h]
  · refine .single ?_
    rw [h]
    exact .stockDeck habsent

/-! ### Studying -/

theorem asked_nextUsn (m : Memory) : asked (store.nextUsn m) = .ok (m.usn + 1) := rfl

/-- An answer changes nothing, or makes one change. -/
theorem after_answerCard (scheduler : Scheduler) (answer : Answer) (m : Memory) :
    (Operation.answerCard scheduler answer).after store m = m ∨
      Change (.answerCard scheduler answer) m
        ((Operation.answerCard scheduler answer).after store m) := by
  have hafter : (Operation.answerCard scheduler answer).after store m =
      left (answerCard store scheduler answer) m := left_map _ _ _
  rw [hafter, answerCard_eq, left_bind, left_question, outcome_question]
  cases hload : loadCard store answer.cardId m with
  | error e => exact Or.inl rfl
  | ok c =>
    dsimp only
    cases hanswer : scheduler.answer? c.scheduling answer.rating answer.now with
    | none => exact Or.inl rfl
    | some answered =>
      obtain ⟨next, review⟩ := answered
      dsimp only
      rw [left_bind, left_ask, outcome_ask, asked_nextUsn]
      dsimp only
      refine (left_checked_bind (updateCard_eq _ m) _).imp_right ?_
      intro h
      rw [h]
      exact .answer (Except.ok.inj (loadCard_eq_ok.mp hload)) hanswer

/-- New marks for a card change nothing, or make one change. -/
theorem after_updateCardFlags (id : CardId) (update : CardFlagsUpdate) (m : Memory) :
    (Operation.updateCardFlags id update).after store m = m ∨
      Change (.updateCardFlags id update) m
        ((Operation.updateCardFlags id update).after store m) := by
  have hafter : (Operation.updateCardFlags id update).after store m =
      left (updateCardFlags store id update) m := left_map _ _ _
  rw [hafter, updateCardFlags_eq, left_bind, left_demand, outcome_demand]
  cases checkFlag update with
  | error e => exact Or.inl rfl
  | ok u =>
    dsimp only
    rw [left_bind, left_question, outcome_question]
    cases hload : loadCard store id m with
    | error e => exact Or.inl rfl
    | ok c =>
      dsimp only
      rw [left_bind, left_ask, outcome_ask, asked_nextUsn]
      dsimp only
      refine (left_checked_bind (updateCard_eq _ m) _).imp_right ?_
      intro h
      rw [h]
      exact .flags (Except.ok.inj (loadCard_eq_ok.mp hload))

/-- Cards are deleted one change after the other. -/
theorem changes_deleteCards (ids : List CardId) (m : Memory) :
    Relation.ReflTransGen (Change (.deleteCards ids)) m
      ((Operation.deleteCards ids).after store m) := by
  -- the report grows along the list, so the induction is over all of them
  have hall : ∀ (rest : List CardId) (report : DeletionReport) (m : Memory),
      (∀ id ∈ rest, id ∈ ids) → Relation.ReflTransGen (Change (.deleteCards ids)) m
        (rest.foldl (fun (report, m) id => Collection.deleteCard store report id m)
          (report, m)).2 := by
    intro rest
    induction rest with
    | nil => exact fun _ _ _ => .refl
    | cons id rest ih =>
      intro report m hids
      have hrest := ih (Collection.deleteCard store report id m).1
        (Collection.deleteCard store report id m).2
        fun id hid => hids id (List.mem_cons_of_mem _ hid)
      refine .trans ?_ hrest
      rw [deleteCard_snd]
      rcases left_checked (deleteCard_eq id m) with h | h
      · rw [h]
      · rw [h]
        exact .single (.deletion (hids id (List.mem_cons_self ..)))
  have hafter : (Operation.deleteCards ids).after store m =
      (ids.foldl (fun (report, m) id => Collection.deleteCard store report id m)
        ({}, m)).2 := left_map _ _ _
  rw [hafter]
  exact hall ids {} m fun _ h => h

/-! ### Making cards anew -/

/-- A step of a batch leaves everything as it was, or fits the cards of the listed note. -/
theorem step_cases (b : Batch) (r : Regenerator) (nt : NoteType) (entry : Except StoreError Note)
    (m : Memory) :
    (b.step store r nt entry m).2 = m ∨ ∃ note, entry = .ok note ∧ nt.name = note.typeName ∧
      (b.step store r nt entry m).2 =
        m.writePlan (r.fit nt note (m.cardsOf note.id) (Store.nextId m.cards)) := by
  rcases step_snd_cases r nt entry m with h | ⟨note, plan, rfl, hplan, h⟩
  · exact Or.inl (h b)
  · obtain ⟨hname, existing, first, hcards, ⟨⟩, rfl⟩ := Regenerator.plan_eq_ok.mp hplan
    obtain ⟨-, rfl⟩ := cardsOfNote_eq_ok.mp hcards
    rw [h b]
    exact (left_checked (applyPlan_eq _ m)).imp_right fun h => ⟨note, rfl, hname, h⟩

/-- A listed note is stored, with the type it is listed for. -/
theorem mem_listed {typeName : String} {note : Note} (h : .ok note ∈ m.listed typeName) :
    note.typeName = typeName ∧ ∃ id, m.notes.get? id = some (.readable note) := by
  obtain ⟨⟨id, stored⟩, hmem, hread⟩ := List.mem_map.mp h
  obtain ⟨hmem, htype⟩ := List.mem_filter.mp hmem
  cases stored with
  | unreadable _ _ => cases hread
  | readable note' =>
    cases hread
    exact ⟨beq_iff_eq.mp htype, id, SortedMap.get?_eq_some_iff.mpr hmem⟩

section Batch

variable {scheduler : Scheduler} {typeName : String} {options : RegenerationOptions} {r : Regenerator}
  {nt : NoteType}

/-- A batch fits one note after the other. The induction is on the notes that are left; the plan of
each needs the type, the decks and the update sequence number that the batch began with. -/
theorem refits_run
    (scheduler_eq : r.scheduler = scheduler) (deck_eq : r.defaultDeck = options.defaultDeck)
    (now_eq : r.now = options.now) (cancel : CancelSignal)
    {entries : List (Except StoreError Note)} (b : Batch) (m : Memory)
    (decks_eq : r.decks = m.deckIds) (usn_le : m.usn ≤ r.usn)
    (typed : m.noteTypes.get? typeName = some nt)
    (found : ∀ note, .ok note ∈ entries →
      note.typeName = typeName ∧ ∃ id, m.notes.get? id = some (.readable note)) :
    Relation.ReflTransGen (Refit scheduler typeName options) m
      (b.run store r nt cancel entries m).2 := by
  induction entries generalizing b m with
  | nil => exact .refl
  | cons entry rest ih =>
    rw [run_cons]
    split
    · exact .refl
    have hrest : ∀ note, .ok note ∈ rest →
        note.typeName = typeName ∧ ∃ id, m.notes.get? id = some (.readable note) :=
      fun note hnote => found note (List.mem_cons_of_mem _ hnote)
    rcases step_cases b r nt entry m with h | ⟨note, rfl, hname, h⟩
    · rw [h]
      exact ih _ m decks_eq usn_le typed hrest
    · obtain ⟨htype, id, hfound⟩ := found note (List.mem_cons_self ..)
      refine .head (.fit scheduler_eq deck_eq now_eq decks_eq usn_le hfound htype typed
        (hname.trans htype)) ?_
      rw [h]
      -- a step writes cards only, so the rest finds its notes, type and decks as they were
      refine ih _ _ ?_ ?_ ?_ ?_
      · rw [deckIds, decks_writePlan]
        exact decks_eq
      · rw [writePlan_eq]
        show (if _ then m.usn else max m.usn r.usn) ≤ r.usn
        split
        · exact usn_le
        · exact Int.max_le.mpr ⟨usn_le, Int.le_refl _⟩
      · rw [noteTypes_writePlan]
        exact typed
      · simpa using hrest

/-- What making cards anew comes to: nothing, or a batch over the listed notes. -/
theorem left_regenerate (scheduler : Scheduler) (typeName : String) (options : RegenerationOptions)
    (m : Memory) :
    left (regenerate store scheduler typeName options) m =
      match m.noteTypes.get? typeName with
      | none => m
      | some nt =>
        (Batch.run ⟨{ noteType := typeName, notesTotal := (m.listed typeName).length }, {}⟩ store
          (m.regenerator scheduler options.defaultDeck options.now) nt options.cancel
          (m.listed typeName) m).2 := by
  unfold left
  cases hget : m.noteTypes.get? typeName with
  | none =>
    have hload : loadNoteType store typeName m = .error (.compile (.unknownNoteType typeName)) := by
      have hask : store.noteType? typeName m = .ok none := congrArg Except.ok hget
      unfold loadNoteType
      rw [hask]
      rfl
    -- an unknown type is refused before the batch begins
    rw [regenerate_eq_error hload]
    rfl
  | some nt =>
    have hload : loadNoteType store typeName m = .ok nt :=
      loadNoteType_eq_ok.mpr (congrArg Except.ok hget)
    rw [regenerate_eq_ok hload rfl rfl rfl]
    rfl

/-- Cards are generated again by the batch alone. -/
theorem after_regenerate (scheduler : Scheduler) (typeName : String) (options : RegenerationOptions)
    (m : Memory) :
    (Operation.regenerate scheduler typeName options).after store m =
      left (regenerate store scheduler typeName options) m := left_map _ _ _

/-- To generate cards again fits one note after the other. -/
theorem refits_regenerate (scheduler : Scheduler) (typeName : String) (options : RegenerationOptions)
    (m : Memory) :
    Relation.ReflTransGen (Refit scheduler typeName options) m
      (left (regenerate store scheduler typeName options) m) := by
  rw [left_regenerate]
  cases hget : m.noteTypes.get? typeName with
  | none => exact .refl
  | some nt =>
    refine refits_run (r := m.regenerator scheduler options.defaultDeck options.now) rfl rfl rfl
      options.cancel _ m rfl ?_ hget fun note => mem_listed
    exact Int.le_add_one (Int.le_refl m.usn)

/-- What an edit comes to: nothing, or the edited type with changed notes, and then, if it can
change cards, these made anew. -/
theorem after_editNoteType (scheduler : Scheduler) (typeName : String) (edit : NoteTypeEdit)
    (options : RegenerationOptions) (m : Memory) :
    (Operation.editNoteType scheduler typeName edit options).after store m = m ∨
      ∃ nt edited, m.noteTypes.get? typeName = some nt ∧ nt.edit edit = .ok edited ∧
        (Operation.editNoteType scheduler typeName edit options).after store m =
          if edit.affectsCards then
            left (regenerate store scheduler typeName options)
              (m.writeNoteType edited (editedNotes edit (m.listed typeName) (m.usn + 1)))
          else m.writeNoteType edited (editedNotes edit (m.listed typeName) (m.usn + 1)) := by
  have hafter : (Operation.editNoteType scheduler typeName edit options).after store m =
      left (editNoteType store scheduler typeName edit options) m := left_map _ _ _
  rw [hafter, editNoteType_eq, left_bind, left_question, outcome_question]
  cases hplan : planEdit store typeName edit m with
  | error e => exact Or.inl rfl
  | ok planned =>
    obtain ⟨edited, notes⟩ := planned
    -- the plan comes from what is seen before anything is written
    obtain ⟨nt, _, _, hnt, hedit, ⟨⟩, ⟨⟩, rfl⟩ :=
      (planEdit_eq_ok ⟨m.listed typeName, rfl⟩ ⟨m.usn + 1, rfl⟩).mp hplan
    dsimp only
    refine (left_checked_bind (saveNoteTypeWithNotes_eq _ _ m) _).imp_right ?_
    intro h
    refine ⟨nt, edited, Except.ok.inj hnt, hedit, ?_⟩
    rw [h]
    cases edit.affectsCards <;> rfl

/-- An edit of a note type is the change of the type and its notes, and then one change for each
note. -/
theorem changes_editNoteType (scheduler : Scheduler) (typeName : String) (edit : NoteTypeEdit)
    (options : RegenerationOptions) (m : Memory) :
    Relation.ReflTransGen (Change (.editNoteType scheduler typeName edit options)) m
      ((Operation.editNoteType scheduler typeName edit options).after store m) := by
  rcases after_editNoteType scheduler typeName edit options m with h | ⟨nt, edited, hnt, hedit, h⟩
  · rw [h]
  · rw [h]
    refine .head (.edit hnt hedit) ?_
    split
    · exact Relation.ReflTransGen.mono (fun _ _ h => Change.editedCards h) _ _
        (refits_regenerate scheduler typeName options _)
    · exact .refl

end Batch

/-! ### Every operation -/

/-- **An operation is made of its changes.** -/
theorem changes (op : Operation) (m : Memory) :
    Relation.ReflTransGen (Change op) m (op.after store m) := by
  have of_cases : ∀ {m' : Memory}, m' = m ∨ Change op m m' →
      Relation.ReflTransGen (Change op) m m' := by
    rintro m' (rfl | h)
    · exact .refl
    · exact .single h
  cases op with
  | seed deckName => exact changes_seed deckName m
  | ensureDeck name => exact of_cases (after_ensureDeck name m)
  | addNote scheduler new => exact of_cases (after_addNote scheduler new m)
  | updateNote scheduler change => exact of_cases (after_updateNote scheduler change m)
  | editNoteType scheduler typeName edit options =>
    exact changes_editNoteType scheduler typeName edit options m
  | regenerate scheduler typeName options =>
    rw [after_regenerate]
    exact Relation.ReflTransGen.mono (fun _ _ h => Change.newCards h) _ _
      (refits_regenerate scheduler typeName options m)
  | answerCard scheduler answer => exact of_cases (after_answerCard scheduler answer m)
  | updateCardFlags id update => exact of_cases (after_updateCardFlags id update m)
  | deleteCards ids => exact changes_deleteCards ids m
  | findEmptyCards typeName => exact of_cases (Or.inl (after_question _ _ _))
  | checkDuplicate typeName query => exact of_cases (Or.inl (after_question _ _ _))
  | dueCards deck now limit => exact of_cases (Or.inl (after_question _ _ _))
  | deckStats deck now => exact of_cases (Or.inl (after_question _ _ _))

/-- What each change keeps, each operation keeps. -/
theorem after_invariant {p : Memory → Prop} {op : Operation}
    (step : ∀ m m', Change op m m' → p m → p m') {m : Memory} (h : p m) : p (op.after store m) := by
  have hall : ∀ m', Relation.ReflTransGen (Change op) m m' → p m' := by
    intro m' hm'
    induction hm' with
    | refl => exact h
    | tail _ hstep ih => exact step _ _ hstep ih
  exact hall _ (changes op m)

end Operations

end Memory

end Flashcard
