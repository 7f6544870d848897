import Flashcard.Proofs.Calls
import Flashcard.Proofs.Tables.Atomic

/-!
# What commands keep

What each update of a store keeps, all work on the store keeps, and so does any run of commands,
whatever comes of them.

- `Keeps`: work that keeps a property of the state.
- `Store.Keeps`: a store each update of which keeps a property.
- `Tables.KeepsWrites`: the single writes behind the updates of the store in tables.
- `Tables.Cardless`: properties that writes of cards have no say in.
- `Command.runAll`: one command after the other.

## Main statements

- `Operation.keeps_afterAll`, `Command.keeps_run`: requests and commands keep what the updates of the
  store keep.
- `Tables.KeepsWrites.afterCalls`: calls of the store in tables keep what its writes keep.
- `Tables.sortInRange_runAll`, `Tables.sortInRange_afterCalls`: in every collection in tables that
  commands or calls lead to, the sort positions are in range.
-/

namespace Flashcard

namespace Collection

variable {ε σ α β : Type} {p : σ → Prop}

/-- Work that keeps a property of the state, whatever comes of it. -/
def Keeps (p : σ → Prop) (work : EStateM ε σ α) : Prop := ∀ s, p s → p (left work s)

namespace Keeps

variable {work : EStateM ε σ α} {f : α → EStateM ε σ β}

/-- Work that changes nothing keeps everything. -/
theorem of_idle (h : Idle work) : Keeps p work := fun s hs => (h s).symm ▸ hs

/-- Work keeps what its parts keep. -/
theorem bind (h : Keeps p work) (hf : ∀ a, Keeps p (f a)) : Keeps p (work >>= f) := by
  intro s hs
  rw [left_bind]
  cases outcome work s with
  | ok a => exact hf a _ (h s hs)
  | error e => exact h s hs

/-- What is made of the answer does not matter. -/
theorem bind_pure (h : Keeps p work) (g : α → β) : Keeps p (work >>= fun a => pure (g a)) :=
  h.bind fun a => .of_idle (.of_pure (g a))

/-- Work whose answer is mapped keeps what the work keeps. -/
theorem map (h : Keeps p work) (g : α → β) : Keeps p (g <$> work) := by
  intro s hs
  rw [left_map]
  exact h s hs

/-- An update keeps as part of a request what it keeps alone. -/
theorem of_write {update : Update σ α} (h : Keeps p update) : Keeps p (write update) := by
  intro s hs
  rw [left_write]
  exact h s hs

/-- Steps that keep the property, one after the other. -/
theorem forM {l : List α} {f : α → EStateM ε σ Unit} (h : ∀ a ∈ l, Keeps p (f a)) :
    Keeps p (l.forM f) := by
  induction l with
  | nil => exact .of_idle (.of_pure ())
  | cons a rest ih =>
    rw [List.forM_eq_forM] at ih ⊢
    rw [List.forM_cons]
    exact (h a (List.mem_cons_self ..)).bind fun _ => ih fun a ha => h a (List.mem_cons_of_mem _ ha)

end Keeps

end Collection

open Collection

/-- Each update of a store keeps a property of its states. -/
structure Store.Keeps {σ : Type} (store : Store σ) (p : σ → Prop) : Prop where
  saveNoteType : ∀ nt, Collection.Keeps p (store.saveNoteType nt)
  updateCard : ∀ c, Collection.Keeps p (store.updateCard c)
  deleteCard : ∀ id, Collection.Keeps p (store.deleteCard id)
  addReview : ∀ id r, Collection.Keeps p (store.addReview id r)
  createDeck : ∀ name, Collection.Keeps p (store.createDeck name)
  recordUsn : ∀ usn, Collection.Keeps p (store.recordUsn usn)
  applyPlan : ∀ plan, Collection.Keeps p (store.applyPlan plan)
  applyNotePlan : ∀ note plan, Collection.Keeps p (store.applyNotePlan note plan)
  saveNoteTypeWithNotes : ∀ nt notes, Collection.Keeps p (store.saveNoteTypeWithNotes nt notes)

/-! ## Work on a store -/

namespace Collection

variable {σ : Type} {store : Store σ} {p : σ → Prop} (h : store.Keeps p)

include h

/-- At most a deck is added. -/
theorem keeps_ensureDeck (name : String) : Keeps p (store.ensureDeck name) := by
  refine Keeps.bind (.of_idle fun s => left_look s _) fun found => ?_
  cases found with
  | some id => exact .of_idle (.of_pure id)
  | none => exact (h.createDeck name).bind_pure _

/-- The making of a collection puts note types and adds a deck. -/
theorem keeps_seed (deckName : String) : Keeps p (seed store deckName) := by
  refine (Keeps.forM fun nt _ => ?_).bind fun _ => .of_write (keeps_ensureDeck h deckName)
  refine Keeps.bind (.of_idle (.of_ask _)) fun found => ?_
  cases found with
  | some _ => exact .of_idle (.of_pure ())
  | none => exact .of_write (h.saveNoteType nt)

theorem keeps_addNote (scheduler : Scheduler) (new : NewNote) : Keeps p (addNote store scheduler new) :=
  Keeps.bind (.of_idle (.of_question _)) fun (note, plan) =>
    Keeps.bind_pure (.of_write (h.applyNotePlan note plan)) _

theorem keeps_updateNote (scheduler : Scheduler) (change : NoteChange) :
    Keeps p (updateNote store scheduler change) :=
  Keeps.bind (.of_idle (.of_question _)) fun (note, plan) =>
    Keeps.bind_pure (.of_write (h.applyNotePlan note plan)) _

/-- A step of a batch keeps the property, whether the plan of the note is carried out or fails. -/
theorem keeps_step (b : Batch) (r : Regenerator) (nt : NoteType) (entry : Except StoreError Note)
    {s : σ} (hs : p s) : p (b.step store r nt entry s).2 := by
  rcases step_snd_cases r nt entry s with hstep | ⟨_, plan, -, -, hstep⟩
  · rw [hstep b]
    exact hs
  · rw [hstep b]
    exact h.applyPlan plan s hs

/-- A batch keeps what the plan of each note keeps. The induction is on the notes that are left. -/
theorem keeps_batch (b : Batch) (r : Regenerator) (nt : NoteType) (cancel : CancelSignal)
    (entries : List (Except StoreError Note)) {s : σ} (hs : p s) :
    p (b.run store r nt cancel entries s).2 :=
  run_invariant r nt cancel b (fun entry _ b _ hs => keeps_step h b r nt entry hs) hs

/-- What is left is what the batch leaves. -/
theorem keeps_regenerate (scheduler : Scheduler) (typeName : String) (options : RegenerationOptions) :
    Keeps p (regenerate store scheduler typeName options) := by
  intro s hs
  unfold left regenerate
  dsimp only
  split
  · exact hs
  · exact keeps_batch h _ _ _ _ _ hs

/-- An edit saves the note type with its notes, and then may generate cards again. -/
theorem keeps_editNoteType (scheduler : Scheduler) (typeName : String) (edit : NoteTypeEdit)
    (options : RegenerationOptions) :
    Keeps p (editNoteType store scheduler typeName edit options) := by
  rw [editNoteType_eq]
  refine Keeps.bind (.of_idle (.of_question _)) fun (edited, notes) => ?_
  refine Keeps.bind (.of_write (h.saveNoteTypeWithNotes edited notes)) fun _ => ?_
  split
  · exact keeps_regenerate h scheduler typeName options
  · exact .of_idle (.of_pure _)

/-- An answer updates the card, adds a record and records the update sequence number. -/
theorem keeps_answerCard (scheduler : Scheduler) (answer : Answer) :
    Keeps p (answerCard store scheduler answer) := by
  rw [answerCard_eq]
  refine Keeps.bind (.of_idle (.of_question _)) fun c => ?_
  cases scheduler.answer? c.scheduling answer.rating answer.now with
  | none => exact .of_idle (.of_throw _)
  | some answered =>
    refine Keeps.bind (.of_idle (.of_ask _)) fun usn => ?_
    refine Keeps.bind (.of_write (h.updateCard _)) fun _ => ?_
    refine Keeps.bind (.of_write (h.addReview _ _)) fun _ => ?_
    exact Keeps.bind_pure (.of_write (h.recordUsn usn)) _

/-- New marks update the card and record the update sequence number. -/
theorem keeps_updateCardFlags (id : CardId) (update : CardFlagsUpdate) :
    Keeps p (updateCardFlags store id update) := by
  rw [updateCardFlags_eq]
  refine Keeps.bind (.of_idle (.of_demand _)) fun _ => ?_
  refine Keeps.bind (.of_idle (.of_question _)) fun c => ?_
  refine Keeps.bind (.of_idle (.of_ask _)) fun usn => ?_
  refine Keeps.bind (.of_write (h.updateCard _)) fun _ => ?_
  exact Keeps.bind_pure (.of_write (h.recordUsn usn)) _

/-- Cards are deleted one after the other, and a refused one is passed over. -/
theorem keeps_deleteCards (ids : List CardId) : Keeps p (deleteCards store ids) := by
  intro s hs
  -- the report grows along the list, so the induction is over all reports
  have hall : ∀ (rest : List CardId) (report : DeletionReport) (s : σ), p s →
      p (rest.foldl (fun state id => Collection.deleteCard store state.1 id state.2)
        (report, s)).2 := by
    intro rest
    induction rest with
    | nil => exact fun _ _ hs => hs
    | cons id rest ih =>
      intro report s hs
      refine ih _ _ (?_ : p (Collection.deleteCard store report id s).2)
      rw [deleteCard_snd]
      exact h.deleteCard id s hs
  exact hall ids {} s hs

/-- Requests keep what each update of the store keeps. -/
theorem Operation.keeps_work (op : Operation) : Keeps p (op.work store) := by
  cases op with
  | seed deckName => exact (keeps_seed h deckName).map _
  | ensureDeck name => exact (Keeps.of_write (keeps_ensureDeck h name)).map _
  | addNote scheduler new => exact (keeps_addNote h scheduler new).map _
  | updateNote scheduler change => exact (keeps_updateNote h scheduler change).map _
  | editNoteType scheduler typeName edit options =>
    exact (keeps_editNoteType h scheduler typeName edit options).map _
  | regenerate scheduler typeName options =>
    exact (keeps_regenerate h scheduler typeName options).map _
  | answerCard scheduler answer => exact (keeps_answerCard h scheduler answer).map _
  | updateCardFlags id update => exact (keeps_updateCardFlags h id update).map _
  | deleteCards ids => exact (keeps_deleteCards h ids).map _
  | findEmptyCards _ | checkDuplicate _ _ | dueCards _ _ _ | deckStats _ _ =>
    exact (Keeps.of_idle (.of_question _)).map _

/-- **What each update keeps holds after any requests.** -/
theorem Operation.keeps_afterAll (ops : List Operation) {s : σ} (hs : p s) :
    p (Operation.afterAll store ops s) :=
  Operation.afterAll_invariant (fun op _ s hs => op.keeps_work h s hs) hs

end Collection

/-! ## Commands -/

namespace Command

variable {σ α : Type} {store : Store σ} {p : σ → Prop}

/-- A command that performs a request keeps what the request keeps. -/
theorem keeps_perform {work : Work σ α} (h : Keeps p work) : Keeps p (perform work) := by
  intro s hs
  rw [left_perform]
  exact h s hs

variable (h : store.Keeps p)

include h

theorem keeps_needed (name : String) : Keeps p (ensureDeck store name) :=
  keeps_perform (.of_write (keeps_ensureDeck h name))

/-- Commands that generate cards again first have a deck there. -/
theorem keeps_regeneration (ctx : CommandContext) : Keeps p (regeneration store ctx) :=
  (keeps_needed h _).bind_pure _

/-- **Commands keep what the updates of the store keep**, also where they fail. -/
theorem keeps_run (ctx : CommandContext) (command : Command) : Keeps p (command.run store ctx) := by
  cases command with
  | init =>
    refine (keeps_perform (keeps_seed h _)).bind fun deck => ?_
    exact .bind_pure (.of_idle (idle_typeNames store)) _
  | addNote _ _ fields _ =>
    refine .bind (.of_idle (idle_input _)) fun fields => (keeps_needed h _).bind fun deck => ?_
    exact .bind_pure (keeps_perform (keeps_addNote h _ _)) _
  | editNote _ _ _ =>
    refine .bind (.of_idle (idle_input _)) fun fields => (keeps_needed h _).bind fun deck => ?_
    exact .bind_pure (keeps_perform (keeps_updateNote h _ _)) _
  | editType _ _ _ =>
    refine .bind (.of_idle (idle_input _)) fun edit => ?_
    refine (keeps_regeneration h ctx).bind fun options => ?_
    exact .bind_pure (keeps_perform (keeps_editNoteType h _ _ _ _)) _
  | regenerate _ =>
    refine (keeps_regeneration h ctx).bind fun options => ?_
    exact .bind_pure (keeps_perform (keeps_regenerate h _ _ _)) _
  | emptyCards _ delete =>
    refine .bind (.of_idle (idle_inspect _)) fun empty => ?_
    cases delete with
    | false => exact .of_idle (.of_pure _)
    | true => exact .bind_pure (keeps_perform (keeps_deleteCards h _)) _
  | answer _ _ _ =>
    refine .bind (.of_idle (idle_input _)) fun rating => ?_
    refine (keeps_perform (keeps_answerCard h _ _)).bind fun review => ?_
    exact .bind_pure (.of_idle (idle_consult _)) _
  | flag _ _ => exact .bind_pure (keeps_perform (keeps_updateCardFlags h _ _)) _
  | noteTypes | noteType _ | decks | cards _ | duplicates _ _ _ _ | due _ _ | deckStats _
  | reviews _ => exact .of_idle (idle_run store ctx rfl)

omit h

/-- The state that commands leave, one after the other, each with what it knows. -/
def runAll (store : Store σ) (commands : List (CommandContext × Command)) (s : σ) : σ :=
  commands.foldl (fun s (ctx, command) => left (command.run store ctx) s) s

include h

/-- What each update keeps holds after any commands. -/
theorem keeps_runAll (commands : List (CommandContext × Command)) {s : σ} (hs : p s) :
    p (runAll store commands s) := by
  induction commands generalizing s with
  | nil => exact hs
  | cons command rest ih => exact ih (keeps_run h command.1 command.2 s hs)

end Command

/-! ## Tables -/

namespace Tables

/-- A transaction keeps what its steps keep. -/
theorem keeps_transaction {α : Type} {p : Tables → Prop} {update : Update Tables α}
    (h : Keeps p update) : Keeps p (transaction update) := by
  intro t ht
  have hupdate := h t ht
  unfold left at hupdate ⊢
  unfold transaction
  revert hupdate
  cases update t with
  | ok _ _ => exact id
  | error _ _ => exact fun _ => ht

/-- An atomic update keeps what it keeps where it is not refused. -/
theorem keeps_of_atomic {α : Type} {p : Tables → Prop} {update : Update Tables α}
    (atomic : ∀ t, Atomic update t) (done : ∀ t a t', p t → update t = .ok a t' → p t') :
    Keeps p update := by
  intro t ht
  unfold left
  cases hupdate : update t with
  | ok a t' => exact done t a t' ht hupdate
  | error e t' => exact atomic t e t' hupdate ▸ ht

/-- A plan that is carried out keeps what each of its writes keeps. -/
theorem keeps_writePlan {p : Tables → Prop} {plan : ReconcilePlan}
    (insertCard : ∀ c ∈ plan.toCreate, Keeps p (insertCard c))
    (updateCard : ∀ c ∈ plan.toUpdate, Keeps p (updateCard c))
    (deleteCard : ∀ id, Keeps p (deleteCard id)) (raiseUsn : ∀ usn, Keeps p (raiseUsn usn)) :
    Keeps p (writePlan plan) := by
  unfold Tables.writePlan Store.carryOut
  refine (Keeps.forM insertCard).bind fun _ => ?_
  refine (Keeps.forM updateCard).bind fun _ => ?_
  refine (Keeps.forM fun id _ => deleteCard id).bind fun _ => ?_
  split
  · exact .of_idle (.of_pure ())
  · exact raiseUsn plan.usn

/-- Whether cards, reviews and the update sequence number have no say in a property. -/
def Cardless (p : Tables → Prop) : Prop :=
  ∀ t cards reviews usn, p t → p { t with cards, reviews, usn }

namespace Cardless

variable {p : Tables → Prop} (h : Cardless p)

include h

/-- An allowed card is inserted. -/
theorem insertCard (c : Card) : Keeps p (insertCard c) := by
  refine keeps_of_atomic (atomic_insertCard c) fun t _ t' ht hdone => ?_
  obtain ⟨-, -, -, -, rfl⟩ := insertCard_eq_ok.mp hdone
  exact h t _ _ _ ht

theorem updateCard (c : Card) : Keeps p (updateCard c) := by
  refine keeps_of_atomic (atomic_updateCard c) fun t _ t' ht hdone => ?_
  obtain ⟨_, -, -, rfl⟩ := updateCard_eq_ok.mp hdone
  exact h t _ _ _ ht

theorem deleteCard (id : CardId) : Keeps p (deleteCard id) := by
  refine keeps_of_atomic (atomic_deleteCard id) fun t _ t' ht hdone => ?_
  obtain ⟨-, rfl⟩ := deleteCard_eq_ok.mp hdone
  exact h t _ _ _ ht

theorem insertReview (id : CardId) (r : Review) : Keeps p (insertReview id r) := by
  refine keeps_of_atomic (atomic_insertReview id r) fun t _ t' ht hdone => ?_
  obtain ⟨-, -, rfl⟩ := insertReview_eq_ok.mp hdone
  exact h t _ _ _ ht

theorem raiseUsn (usn : Usn) : Keeps p (raiseUsn usn) := fun t ht => h t _ _ _ ht

/-- A plan of allowed cards is written. -/
theorem writePlan (plan : ReconcilePlan) : Keeps p (writePlan plan) :=
  keeps_writePlan (fun c _ => h.insertCard c) (fun c _ => h.updateCard c) h.deleteCard h.raiseUsn

end Cardless

/-- Each single write of the tables, as long as only some cards are written, keeps a property of
them. -/
structure KeepsWrites (allowed : Card → Prop) (p : Tables → Prop) : Prop where
  writeNoteType : ∀ nt, Keeps p (writeNoteType nt)
  insertNote : ∀ note, Keeps p (insertNote note)
  replaceNote : ∀ note, Keeps p (replaceNote note)
  updateNote : ∀ note, Keeps p (updateNote note)
  insertCard : ∀ c, allowed c → Keeps p (insertCard c)
  updateCard : ∀ c, allowed c → Keeps p (updateCard c)
  deleteCard : ∀ id, Keeps p (deleteCard id)
  insertReview : ∀ id r, Keeps p (insertReview id r)
  insertDeck : ∀ name, Keeps p (insertDeck name)
  raiseUsn : ∀ usn, Keeps p (raiseUsn usn)

namespace KeepsWrites

section Allowed

variable {allowed : Card → Prop} {p : Tables → Prop} (h : KeepsWrites allowed p)

include h

/-- A plan that writes such cards only keeps the property. -/
theorem writePlan {plan : ReconcilePlan} (written : ∀ c ∈ plan.toCreate ++ plan.toUpdate, allowed c) :
    Keeps p (writePlan plan) :=
  keeps_writePlan (fun c hc => h.insertCard c (written c (List.mem_append_left _ hc)))
    (fun c hc => h.updateCard c (written c (List.mem_append_right _ hc))) h.deleteCard h.raiseUsn

/-- A plan of allowed cards is applied. -/
theorem applyPlan {plan : ReconcilePlan} (written : ∀ c ∈ plan.toCreate ++ plan.toUpdate, allowed c) :
    Keeps p (Tables.store.applyPlan plan) := keeps_transaction (h.writePlan written)

/-- A plan of allowed cards is applied with its note. -/
theorem applyNotePlan (note : Note) {plan : ReconcilePlan}
    (written : ∀ c ∈ plan.toCreate ++ plan.toUpdate, allowed c) :
    Keeps p (Tables.store.applyNotePlan note plan) :=
  keeps_transaction <|
    (h.replaceNote note).bind fun _ => (h.writePlan written).bind fun _ => h.raiseUsn note.usn

/-- A note type is saved with its notes. -/
theorem saveNoteTypeWithNotes (nt : NoteType) (notes : List Note) :
    Keeps p (Tables.store.saveNoteTypeWithNotes nt notes) :=
  keeps_transaction <|
    Keeps.bind (.forM fun note _ => (h.updateNote note).bind fun _ => h.raiseUsn note.usn)
      fun _ => h.writeNoteType nt

/-- **What each write keeps, calls of the store keep**, if they write such cards only. -/
theorem afterCalls (calls : List Store.Call) (written : ∀ call ∈ calls, ∀ c ∈ call.cards, allowed c)
    (empty : p {}) : p (Tables.store.afterCalls calls {}) := by
  refine Store.afterCalls_invariant (fun call hcall t ht => ?_) empty
  have written := written call hcall
  cases call with
  | saveNoteType nt => exact h.writeNoteType nt t ht
  | createNote note => exact h.insertNote note t ht
  | updateNote note => exact h.updateNote note t ht
  | createCard c => exact h.insertCard c (written c (List.mem_singleton_self c)) t ht
  | updateCard c => exact h.updateCard c (written c (List.mem_singleton_self c)) t ht
  | deleteCard id => exact h.deleteCard id t ht
  | addReview id review => exact h.insertReview id review t ht
  | createDeck name => exact h.insertDeck name t ht
  | recordUsn usn => exact h.raiseUsn usn t ht
  | applyPlan plan => exact h.applyPlan written t ht
  | applyNotePlan note plan => exact h.applyNotePlan note written t ht
  | saveNoteTypeWithNotes nt notes => exact h.saveNoteTypeWithNotes nt notes t ht

end Allowed

/-- What each write keeps, whatever the cards, each update of the store keeps. -/
theorem store {p : Tables → Prop} (h : KeepsWrites (fun _ => True) p) : store.Keeps p where
  saveNoteType := h.writeNoteType
  updateCard c := h.updateCard c trivial
  deleteCard := h.deleteCard
  addReview := h.insertReview
  createDeck := h.insertDeck
  recordUsn := h.raiseUsn
  applyPlan _ := h.applyPlan fun _ _ => trivial
  applyNotePlan note _ := h.applyNotePlan note fun _ _ => trivial
  saveNoteTypeWithNotes := h.saveNoteTypeWithNotes

end KeepsWrites

/-! ## Sort positions -/

/-- Updates that leave the note types alone keep sort positions in range. -/
theorem keeps_of_same {α : Type} {update : Update Tables α}
    (same : ∀ t, (left update t).noteTypes = t.noteTypes) : Keeps SortInRange update := by
  intro t inRange name row hget
  rw [same t] at hget
  exact inRange name row hget

/-- A note type is written with an index that is cut to range. -/
theorem keeps_writeNoteType (nt : NoteType) : Keeps SortInRange (writeNoteType nt) := by
  intro t inRange name row hget
  rcases SortedMap.get?_insert_eq_some_iff.mp hget with ⟨-, rfl⟩ | ⟨-, hget⟩
  · exact NoteTypeRow.sortIndex_of_le nt _
  · exact inRange name row hget

theorem keeps_insertNote (note : Note) : Keeps SortInRange (insertNote note) := by
  refine keeps_of_same fun t => ?_
  unfold left insertNote
  split <;> rfl

theorem keeps_updateNote (note : Note) : Keeps SortInRange (updateNote note) := by
  refine keeps_of_same fun t => ?_
  unfold left updateNote
  split <;> rfl

theorem keeps_insertDeck (name : String) : Keeps SortInRange (insertDeck name) := by
  refine keeps_of_same fun t => ?_
  unfold left insertDeck
  split <;> rfl

/-- Sort indices are not among the cards. -/
theorem cardless_sortInRange : Cardless SortInRange := fun _ _ _ _ h => h

/-- Whatever is written, sort indices are in range. -/
theorem keepsWrites_sortInRange : KeepsWrites (fun _ => True) SortInRange where
  writeNoteType := keeps_writeNoteType
  insertNote := keeps_insertNote
  replaceNote _ := keeps_of_same fun _ => rfl
  updateNote := keeps_updateNote
  insertCard c _ := cardless_sortInRange.insertCard c
  updateCard c _ := cardless_sortInRange.updateCard c
  deleteCard := cardless_sortInRange.deleteCard
  insertReview := cardless_sortInRange.insertReview
  insertDeck := keeps_insertDeck
  raiseUsn := cardless_sortInRange.raiseUsn

theorem store_keeps_sortInRange : store.Keeps SortInRange := keepsWrites_sortInRange.store

/-- **Sort positions are in range** in every collection that commands lead to. -/
theorem sortInRange_runAll (commands : List (CommandContext × Command)) :
    (Command.runAll store commands {}).SortInRange :=
  Command.keeps_runAll store_keeps_sortInRange commands fun _ _ h => nomatch h

/-- **Sort positions are in range** in every collection that calls of the store lead to. -/
theorem sortInRange_afterCalls (calls : List Store.Call) :
    (store.afterCalls calls {}).SortInRange :=
  keepsWrites_sortInRange.afterCalls calls (fun _ _ _ _ => trivial) fun _ _ h => nomatch h

end Tables

end Flashcard
