import Flashcard.Collection.Cards
import Flashcard.Collection.Notes

/-!
# Operations

All that a collection can be asked for, as one type, so that a history of a collection is a list.

- `Operation`: the requests, with their arguments. `Reply`: the answers.
- `Operation.work`: a request as work on a store.
- `Operation.answer`, `Operation.after`: the answer to a request, and the state that it leaves,
  granted or refused.
- `Operation.afterAll`: the state after a list of requests.
-/

namespace Flashcard

namespace Collection

/-- All that a collection can be asked for. -/
inductive Operation where
  | seed (deckName : String)
  | ensureDeck (name : String)
  | addNote (scheduler : Scheduler) (new : NewNote)
  | updateNote (scheduler : Scheduler) (change : NoteChange)
  | editNoteType (scheduler : Scheduler) (typeName : String) (edit : NoteTypeEdit)
      (options : RegenerationOptions)
  | regenerate (scheduler : Scheduler) (typeName : String) (options : RegenerationOptions)
  | answerCard (scheduler : Scheduler) (answer : Answer)
  | updateCardFlags (id : CardId) (update : CardFlagsUpdate)
  | deleteCards (ids : List CardId)
  | findEmptyCards (typeName : Option String)
  | checkDuplicate (typeName : String) (query : DuplicateQuery)
  | dueCards (deck : Option DeckId) (now : Timestamp) (limit : Nat)
  | deckStats (deck : Option DeckId) (now : Timestamp)

/-- The answer to a request that was granted. -/
inductive Reply where
  | deck (id : DeckId)
  | addedNote (added : AddedNote)
  | plan (plan : ReconcilePlan)
  | report (report : RegenerationReport)
  | review (review : Review)
  | card (card : Card)
  | deletion (report : DeletionReport)
  | emptyCards (cards : List EmptyCard)
  | notes (notes : List NoteBrief)
  | cards (cards : List Card)
  | stats (stats : DeckStats)
  deriving DecidableEq

variable {ε σ α β : Type}

/-- A question to the collection, as work that changes nothing. -/
def question (query : σ → Except CollectionError α) : Work σ α := fun s => demand (query s) s

/-- The value or failure of a result. -/
def valueOf : EStateM.Result ε σ α → Except ε α
  | .ok a _ => .ok a
  | .error e _ => .error e

/-- The state of a result, be it a success or a failure. -/
def stateOf : EStateM.Result ε σ α → σ
  | .ok _ after => after
  | .error _ after => after

/-- What work gives. -/
def outcome (work : EStateM ε σ α) (s : σ) : Except ε α := valueOf (work s)

/-- The state that work leaves, whether it succeeds or fails. -/
def left (work : EStateM ε σ α) (s : σ) : σ := stateOf (work s)

namespace Operation

/-- A request as work on a store. -/
def work (store : Store σ) : Operation → Work σ Reply
  | .seed deckName => Reply.deck <$> Collection.seed store deckName
  | .ensureDeck name => Reply.deck <$> write (store.ensureDeck name)
  | .addNote scheduler new => Reply.addedNote <$> Collection.addNote store scheduler new
  | .updateNote scheduler change => Reply.plan <$> Collection.updateNote store scheduler change
  | .editNoteType scheduler typeName edit options =>
    Reply.report <$> Collection.editNoteType store scheduler typeName edit options
  | .regenerate scheduler typeName options =>
    Reply.report <$> Collection.regenerate store scheduler typeName options
  | .answerCard scheduler answer => Reply.review <$> Collection.answerCard store scheduler answer
  | .updateCardFlags id update => Reply.card <$> Collection.updateCardFlags store id update
  | .deleteCards ids => Reply.deletion <$> Collection.deleteCards store ids
  | .findEmptyCards typeName =>
    Reply.emptyCards <$> question (Collection.findEmptyCards store typeName)
  | .checkDuplicate typeName query =>
    Reply.notes <$> question (Collection.checkDuplicate store typeName query)
  | .dueCards deck now limit => Reply.cards <$> question (Collection.dueCards store deck now limit)
  | .deckStats deck now => Reply.stats <$> question (Collection.deckStats store deck now)

/-- The answer to a request. -/
def answer (store : Store σ) (op : Operation) (s : σ) : Except CollectionError Reply :=
  outcome (op.work store) s

/-- The state that a request leaves. -/
def after (store : Store σ) (op : Operation) (s : σ) : σ := left (op.work store) s

/-- The state that a list of requests leaves. -/
def afterAll (store : Store σ) (ops : List Operation) (s : σ) : σ :=
  ops.foldl (fun s op => op.after store s) s

/-- Requests and later ones are one list of requests. -/
theorem afterAll_append (store : Store σ) (ops later : List Operation) (s : σ) :
    afterAll store (ops ++ later) s = afterAll store later (afterAll store ops s) :=
  List.foldl_append

theorem afterAll_concat (store : Store σ) (ops : List Operation) (op : Operation) (s : σ) :
    afterAll store (ops ++ [op]) s = op.after store (afterAll store ops s) := by
  rw [afterAll_append]
  rfl

/-- What holds at first and is kept by each request holds after any list of requests. -/
theorem afterAll_invariant {store : Store σ} {p : σ → Prop} {ops : List Operation}
    (step : ∀ op ∈ ops, ∀ s, p s → p (op.after store s)) {s : σ} (h : p s) :
    p (afterAll store ops s) := by
  induction ops generalizing s with
  | nil => exact h
  | cons op rest ih =>
    exact ih (fun op hop => step op (List.mem_cons_of_mem _ hop))
      (step op (List.mem_cons_self ..) s h)

end Operation

/-! ## What work gives and leaves -/

section Work

variable (work : EStateM ε σ α) (s : σ)

/-- A map of the answer leaves what the work leaves. -/
theorem left_map (f : α → β) : left (f <$> work) s = left work s := by
  show stateOf (EStateM.map f work s) = stateOf (work s)
  unfold EStateM.map
  cases work s <;> rfl

theorem outcome_map (f : α → β) : outcome (f <$> work) s = (outcome work s).map f := by
  show valueOf (EStateM.map f work s) = (valueOf (work s)).map f
  unfold EStateM.map
  cases work s <;> rfl

/-- Work in two parts leaves what the second leaves, unless the first fails. -/
theorem left_bind (f : α → EStateM ε σ β) :
    left (work >>= f) s =
      match outcome work s with
      | .ok a => left (f a) (left work s)
      | .error _ => left work s := by
  show stateOf (EStateM.bind work f s) = _
  unfold EStateM.bind outcome left
  cases work s <;> rfl

/-- Work in two parts answers as the second does, unless the first fails. -/
theorem outcome_bind (f : α → EStateM ε σ β) :
    outcome (work >>= f) s =
      match outcome work s with
      | .ok a => outcome (f a) (left work s)
      | .error e => .error e := by
  show valueOf (EStateM.bind work f s) = _
  unfold EStateM.bind outcome left
  cases work s <;> rfl

/-- Where the rest of some work changes nothing, its beginning does it all. -/
theorem left_bind_idle {f : α → EStateM ε σ β} (idle : ∀ a t, left (f a) t = t) :
    left (work >>= f) s = left work s := by
  rw [left_bind]
  cases outcome work s with
  | ok a => exact idle a _
  | error e => rfl

@[simp] theorem left_write (update : Update σ α) : left (write update) s = left update s := by
  unfold left write
  cases update s <;> rfl

@[simp] theorem outcome_write (update : Update σ α) :
    outcome (write update) s = asked (outcome update s) := by
  unfold outcome write
  cases update s <;> rfl

/-- An update that goes through does so as part of a request. -/
theorem write_eq_ok {update : Update σ α} {s s' : σ} {a : α} (h : update s = .ok a s') :
    write update s = .ok a s' := by
  unfold write
  rw [h]

/-- A question that is answered is so in the midst of an update. -/
theorem look_eq_ok {query : Query σ α} {a : α} (h : query s = .ok a) :
    Store.look query s = .ok a s := by
  unfold Store.look
  rw [h]

/-- Behind work that succeeds comes the rest. -/
theorem bind_eq_of_ok {work : EStateM ε σ α} {s s' : σ} {a : α} (h : work s = .ok a s')
    (f : α → EStateM ε σ β) : (work >>= f) s = f a s' := by
  show EStateM.bind work f s = _
  unfold EStateM.bind
  rw [h]

/-- Writes that succeed one by one, each where the ones before it have led to, succeed one after
another. The states may be seen through a view. -/
theorem forM_along {τ : Type} (view : τ → σ) {write : α → EStateM ε σ Unit} {put : τ → α → τ}
    (ready : τ → List α → Prop)
    (step : ∀ t a rest, ready t (a :: rest) →
      write a (view t) = .ok () (view (put t a)) ∧ ready (put t a) rest)
    {l : List α} {t : τ} (h : ready t l) :
    l.forM write (view t) = .ok () (view (l.foldl put t)) := by
  induction l generalizing t with
  | nil => rfl
  | cons a rest ih =>
    obtain ⟨hwrite, hrest⟩ := step t a rest h
    rw [List.forM_eq_forM, List.forM_cons, bind_eq_of_ok hwrite]
    exact ih hrest

@[simp] theorem left_ask (query : Query σ α) : left (ask query) s = s := by
  unfold left ask
  cases query s <;> rfl

@[simp] theorem outcome_ask (query : Query σ α) : outcome (ask query) s = asked (query s) := by
  unfold outcome ask
  cases query s <;> rfl

@[simp] theorem left_look (query : Query σ α) : left (Store.look query) s = s := by
  unfold left Store.look
  cases query s <;> rfl

@[simp] theorem outcome_look (query : Query σ α) : outcome (Store.look query) s = query s := by
  unfold outcome Store.look
  cases query s <;> rfl

@[simp] theorem left_demand (a : Except CollectionError α) : left (demand a) s = s := by
  cases a <;> rfl

@[simp] theorem outcome_demand (a : Except CollectionError α) : outcome (demand a) s = a := by
  cases a <;> rfl

/-- A question changes nothing. -/
@[simp] theorem left_question (query : σ → Except CollectionError α) :
    left (question query) s = s := left_demand s (query s)

/-- The state that a question leaves, whatever is made of its answer. -/
theorem after_question (f : α → β) (query : σ → Except CollectionError α) (s : σ) :
    left (f <$> question query) s = s := (left_map _ _ _).trans (left_question s query)

@[simp] theorem outcome_question (query : σ → Except CollectionError α) :
    outcome (question query) s = query s := outcome_demand s (query s)

/-- Work that asks first is known from what it does with the answer. -/
theorem bind_question_congr {query : σ → Except CollectionError α} {f g : α → Work σ β} {s : σ}
    (h : ∀ a, query s = .ok a → f a s = g a s) :
    (question query >>= f) s = (question query >>= g) s := by
  show EStateM.bind (question query) f s = EStateM.bind (question query) g s
  unfold EStateM.bind question
  cases hquery : query s with
  | ok a => exact h a hquery
  | error e => rfl

/-- Updates that both succeed alike, and what is done after them. -/
theorem bind_write_congr {update update' : Update σ α} {f g : α → Work σ β} {s s' : σ} {a : α}
    (h : update s = .ok a s') (h' : update' s = .ok a s') (hrest : f a s' = g a s') :
    (write update >>= f) s = (write update' >>= g) s := by
  rw [bind_eq_of_ok (write_eq_ok h), bind_eq_of_ok (write_eq_ok h'), hrest]

end Work

/-- The state that is left where a card is deleted and what becomes of it is reported. -/
theorem deleteCard_snd (store : Store σ) (report : DeletionReport) (id : CardId)
    (s : σ) : (Collection.deleteCard store report id s).2 = left (store.deleteCard id) s := by
  unfold Collection.deleteCard left
  cases store.deleteCard id s <;> rfl

/-! ## Operations as a question and writes -/

section Shape

variable (store : Store σ) (scheduler : Scheduler)

/-- A note is planned, then written with its cards. -/
theorem addNote_eq (new : NewNote) :
    addNote store scheduler new = (do
      let (note, plan) ← question (planNewNote store scheduler new)
      write (store.applyNotePlan note plan)
      pure ⟨note, plan.toCreate⟩) := rfl

/-- A change of a note is planned, then written with its cards. -/
theorem updateNote_eq (change : NoteChange) :
    updateNote store scheduler change = (do
      let (note, plan) ← question (planNoteChange store scheduler change)
      write (store.applyNotePlan note plan)
      pure plan) := rfl

/-- An edit is planned and saved, and then cards are generated again if they can have changed. -/
theorem editNoteType_eq (typeName : String) (edit : NoteTypeEdit)
    (options : RegenerationOptions) :
    editNoteType store scheduler typeName edit options = (do
      let (edited, notes) ← question (planEdit store typeName edit)
      write (store.saveNoteTypeWithNotes edited notes)
      if edit.affectsCards then regenerate store scheduler typeName options
      else pure { noteType := typeName }) := rfl

/-- An answer is scheduled, then the card is updated, then its record is added. -/
theorem answerCard_eq (answer : Answer) :
    answerCard store scheduler answer = (do
      let card ← question (loadCard store answer.cardId)
      match scheduler.answer? card.scheduling answer.rating answer.now with
      | none => throw .dueDateOutOfRange
      | some (next, review) =>
        let review := { review with timeTakenMs := answer.timeTakenMs }
        let usn ← ask store.nextUsn
        write (store.updateCard { card with scheduling := next, usn })
        write (store.addReview answer.cardId review)
        write (store.recordUsn usn)
        pure review) := rfl

/-- Marks are checked, then the card is updated. -/
theorem updateCardFlags_eq (id : CardId) (update : CardFlagsUpdate) :
    updateCardFlags store id update = (do
      demand (checkFlag update)
      let card ← question (loadCard store id)
      let usn ← ask store.nextUsn
      let card :=
        { card with
          flag := update.flag.getD card.flag
          marked := update.marked.getD card.marked
          suspended := update.suspended.getD card.suspended
          usn }
      write (store.updateCard card)
      write (store.recordUsn usn)
      pure card) := rfl

end Shape

end Collection

end Flashcard
