import Flashcard.Proofs.Tables.Questions

/-!
# Work on tables along with work in memory

The same work, done on a collection in memory and on its tables, gives the same and leaves the
tables of the collection that is left in memory. Pieces of work that go along make up work that goes
along.

- `Tables.Along`: work that goes along.
- `Tables.Along.bind`, `Tables.Along.bind_question` and their like: how it is made up.
-/

namespace Flashcard

namespace Tables

open Collection Memory

variable {ε α β : Type} {m : Memory}

/-- Whether work on the tables of a collection goes along with work on the collection: it gives the
same value or failure, and it leaves the tables of what is left in memory. -/
structure Along (work : EStateM ε Tables α) (work' : EStateM ε Memory α) (m : Memory) : Prop where
  same : ∀ pos, outcome work (image pos m) = outcome work' m
  held : ∀ pos, ∃ pos', left work (image pos m) = image pos' (left work' m)

/-! ## Pieces of work -/

namespace Along

/-- Work runs along if it succeeds in memory and, wherever the note types stand, in tables with the
same answer. -/
theorem of_ok {work : EStateM ε Tables α} {work' : EStateM ε Memory α} {a : α} {m' : Memory}
    (h' : work' m = .ok a m') (h : ∀ pos, ∃ pos', work (image pos m) = .ok a (image pos' m')) :
    Along work work' m := by
  constructor
  · intro pos
    obtain ⟨pos', hwork⟩ := h pos
    rw [outcome, outcome, h', hwork]
    rfl
  · intro pos
    obtain ⟨pos', hwork⟩ := h pos
    refine ⟨pos', ?_⟩
    rw [left, left, h', hwork]
    rfl

/-- Work runs along if it fails in memory and, wherever the note types stand, in tables with the
same error. -/
theorem of_error {work : EStateM ε Tables α} {work' : EStateM ε Memory α} {e : ε} {m' : Memory}
    (h' : work' m = .error e m')
    (h : ∀ pos, ∃ pos', work (image pos m) = .error e (image pos' m')) : Along work work' m := by
  constructor
  · intro pos
    obtain ⟨pos', hwork⟩ := h pos
    rw [outcome, outcome, h', hwork]
    rfl
  · intro pos
    obtain ⟨pos', hwork⟩ := h pos
    refine ⟨pos', ?_⟩
    rw [left, left, h', hwork]
    rfl

theorem of_pure (a : α) : Along (pure a : EStateM ε Tables α) (pure a) m :=
  of_ok rfl fun pos => ⟨pos, rfl⟩

theorem of_throw (e : ε) : Along (throw e : EStateM ε Tables α) (throw e) m :=
  ⟨fun _ => rfl, fun pos => ⟨pos, rfl⟩⟩

/-- What does not look at the store runs along. -/
theorem of_demand (a : Except CollectionError α) : Along (demand a) (demand a) m := by
  refine ⟨fun pos => ?_, fun pos => ⟨pos, ?_⟩⟩
  · rw [outcome_demand, outcome_demand]
  · rw [left_demand, left_demand]

/-- A question that is answered alike. -/
theorem of_question {query : Tables → Except CollectionError α}
    {query' : Memory → Except CollectionError α} (h : ∀ pos, query (image pos m) = query' m) :
    Along (question query) (question query') m := by
  refine ⟨fun pos => ?_, fun pos => ⟨pos, ?_⟩⟩
  · rw [outcome_question, outcome_question, h]
  · rw [left_question, left_question]

/-- A question that is answered alike can be asked on both sides. -/
theorem of_ask {query : Query Tables α} {query' : Query Memory α}
    (h : ∀ pos, query (image pos m) = query' m) : Along (ask query) (ask query') m := by
  refine ⟨fun pos => ?_, fun pos => ⟨pos, ?_⟩⟩
  · rw [outcome_ask, outcome_ask, h]
  · rw [left_ask, left_ask]

/-- So can one that is asked in the midst of an update. -/
theorem of_look {query : Query Tables α} {query' : Query Memory α}
    (h : ∀ pos, query (image pos m) = query' m) :
    Along (Store.look query) (Store.look query') m := by
  refine ⟨fun pos => ?_, fun pos => ⟨pos, ?_⟩⟩
  · rw [outcome_look, outcome_look, h]
  · rw [left_look, left_look]

/-- An update that runs along does so as part of a request. -/
theorem of_write {update : Update Tables α} {update' : Update Memory α}
    (h : Along update update' m) : Along (write update) (write update') m := by
  constructor
  · intro pos
    rw [outcome_write, outcome_write, h.same]
  · intro pos
    rw [left_write, left_write]
    exact h.held pos

variable {work : EStateM ε Tables α} {work' : EStateM ε Memory α}

/-- What is made of the answer does not matter. -/
theorem map (h : Along work work' m) (f : α → β) : Along (f <$> work) (f <$> work') m := by
  constructor
  · intro pos
    rw [outcome_map, outcome_map, h.same]
  · intro pos
    rw [left_map, left_map]
    exact h.held pos

/-- **Work made up of pieces goes along** when each piece does, from where the pieces before it have
led to. -/
theorem bind {f : α → EStateM ε Tables β} {f' : α → EStateM ε Memory β} (h : Along work work' m)
    (hf : ∀ a, outcome work' m = .ok a → Along (f a) (f' a) (left work' m)) :
    Along (work >>= f) (work' >>= f') m := by
  constructor
  · intro pos
    obtain ⟨pos', hleft⟩ := h.held pos
    rw [outcome_bind, outcome_bind, h.same, hleft]
    cases houtcome : outcome work' m with
    | error e => rfl
    | ok a => exact (hf a houtcome).same pos'
  · intro pos
    obtain ⟨pos', hleft⟩ := h.held pos
    rw [left_bind, left_bind, h.same, hleft]
    cases houtcome : outcome work' m with
    | error e => exact ⟨pos', rfl⟩
    | ok a => exact (hf a houtcome).held pos'

/-- What is done with an answer, once the answer is there. -/
theorem bind_question {query : Tables → Except CollectionError α}
    {query' : Memory → Except CollectionError α} {f : α → Work Tables β} {f' : α → Work Memory β}
    (h : ∀ pos, query (image pos m) = query' m)
    (hf : ∀ a, query' m = .ok a → Along (f a) (f' a) m) :
    Along (question query >>= f) (question query' >>= f') m := by
  refine (of_question h).bind ?_
  intro a ha
  rw [outcome_question] at ha
  rw [left_question]
  exact hf a ha

/-- A question that is answered alike, and then what depends on the answer. -/
theorem bind_ask {query : Query Tables α} {query' : Query Memory α} {f : α → Work Tables β}
    {f' : α → Work Memory β} (h : ∀ pos, query (image pos m) = query' m)
    (hf : ∀ a, query' m = .ok a → Along (f a) (f' a) m) :
    Along (ask query >>= f) (ask query' >>= f') m := by
  refine (of_ask h).bind ?_
  intro a ha
  rw [outcome_ask] at ha
  rw [left_ask]
  exact hf a (asked_eq_ok.mp ha)

/-- An update that succeeds, and what is done after it. -/
theorem bind_write {update : Update Tables α} {update' : Update Memory α} {a : α} {m' : Memory}
    {f : α → Work Tables β} {f' : α → Work Memory β} (h' : update' m = .ok a m')
    (h : ∀ pos, ∃ pos', update (image pos m) = .ok a (image pos' m'))
    (hf : Along (f a) (f' a) m') : Along (write update >>= f) (write update' >>= f') m := by
  refine (of_write (of_ok h' h)).bind ?_
  intro b hb
  have hleft : left update' m = m' := by rw [left, h']; rfl
  rw [outcome_write, outcome, h'] at hb
  cases hb
  rw [left_write, hleft]
  exact hf

end Along

end Tables

end Flashcard
