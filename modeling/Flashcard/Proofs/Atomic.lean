import Flashcard.Command.Run
import Flashcard.Proofs.Planning
import Flashcard.Proofs.Results

/-!
# Work that fails without a trace

Work is atomic in a state if a failure in that state leaves it as it was. Looks are atomic in every
state, and so is work that first looks, then makes one atomic change, and does nothing after it that
can fail.

- `Idle`: work that changes nothing, whatever comes of it.
- `Unfailing`: work that does not fail in a state.
- `Atomic`: work that changes nothing if it fails in a state.
- `Atomic.bind_idle`, `Atomic.bind`: the two ways to make up atomic work.
- `Command.idle_run`: commands that only show something.
-/

namespace Flashcard

namespace Collection

variable {ε σ α β : Type}

/-- Work that changes nothing, whatever comes of it. -/
def Idle (work : EStateM ε σ α) : Prop := ∀ s, left work s = s

/-- Work that does not fail in a state. -/
def Unfailing (work : EStateM ε σ α) (s : σ) : Prop := ∀ e t, work s ≠ .error e t

/-- Work that changes nothing if it fails in a state. -/
def Atomic (work : EStateM ε σ α) (s : σ) : Prop := ∀ e t, work s = .error e t → t = s

variable {work : EStateM ε σ α} {f : α → EStateM ε σ β} {s t : σ} {a : α}

/-! ## Looks -/

namespace Idle

/-- Work that changes nothing leaves the state it began in. -/
theorem eq_of_done (h : Idle work) (hdone : work s = .ok a t) : t = s :=
  (done_iff.mp hdone).2.symm.trans (h s)

/-- In particular where it is refused. -/
theorem atomic (h : Idle work) (s : σ) : Atomic work s := by
  intro e t hfail
  have hleft : left work s = t := by rw [left, hfail]; rfl
  exact hleft.symm.trans (h s)

theorem of_pure (a : α) : Idle (pure a : EStateM ε σ α) := fun _ => rfl

theorem of_throw (e : ε) : Idle (throw e : EStateM ε σ α) := fun _ => rfl

/-- Work changes nothing if its parts do not. -/
theorem bind (h : Idle work) (hf : ∀ a, Idle (f a)) : Idle (work >>= f) := by
  intro s
  rw [left_bind_idle _ _ fun a t => hf a t]
  exact h s

/-- A question changes nothing, and neither do the next two. -/
theorem of_question (query : σ → Except CollectionError α) : Idle (question query) :=
  fun s => left_question s query

theorem of_ask (query : Query σ α) : Idle (ask query) := fun s => left_ask s query

theorem of_demand (a : Except CollectionError α) : Idle (demand a : Work σ α) :=
  fun s => left_demand s a

end Idle

/-! ## Work that cannot fail -/

namespace Unfailing

theorem atomic (h : Unfailing work s) : Atomic work s := fun e t hfail => absurd hfail (h e t)

theorem of_done (h : work s = .ok a t) : Unfailing work s := by
  intro e t' hfail
  rw [h] at hfail
  cases hfail

theorem of_pure (a : α) : Unfailing (pure a : EStateM ε σ α) s := of_done rfl

/-- Work does not fail if its parts do not. -/
theorem bind (h : Unfailing work s) (hf : ∀ a t, work s = .ok a t → Unfailing (f a) t) :
    Unfailing (work >>= f) s := by
  intro e t hfail
  rcases failed_bind.mp hfail with hfirst | ⟨a, s', hdone, hrest⟩
  · exact h e t hfirst
  · exact hf a s' hdone e t hrest

theorem of_write {update : Update σ α} (h : Unfailing update s) : Unfailing (write update) s := by
  intro e t hfail
  obtain ⟨e', hfail, -⟩ := failed_write.mp hfail
  exact h e' t hfail

/-- Work that does not fail succeeds. -/
theorem exists_ok (h : Unfailing work s) : ∃ a t, work s = .ok a t := by
  cases hwork : work s with
  | ok a t => exact ⟨a, t, rfl⟩
  | error e t => exact absurd hwork (h e t)

end Unfailing

/-! ## Atomic work -/

namespace Atomic

/-- After a look the state is still the one that the work began with. -/
theorem bind_idle (h : Idle work) (hf : ∀ a, work s = .ok a s → Atomic (f a) s) :
    Atomic (work >>= f) s := by
  intro e t hfail
  rcases failed_bind.mp hfail with hfirst | ⟨a, s', hdone, hrest⟩
  · exact h.atomic s e t hfirst
  · obtain rfl := h.eq_of_done hdone
    exact hf a hdone e t hrest

/-- After a change nothing may fail any more. -/
theorem bind (h : Atomic work s) (hf : ∀ a t, work s = .ok a t → Unfailing (f a) t) :
    Atomic (work >>= f) s := by
  intro e t hfail
  rcases failed_bind.mp hfail with hfirst | ⟨a, s', hdone, hrest⟩
  · exact h e t hfirst
  · exact absurd hrest (hf a s' hdone e t)

/-- What is made of the answer does not matter. -/
theorem bind_pure (h : Atomic work s) (g : α → β) : Atomic (work >>= fun a => pure (g a)) s :=
  h.bind fun a _ _ => .of_pure (g a)

/-- An update is as atomic as part of a request as it is alone. -/
theorem of_write {update : Update σ α} (h : Atomic update s) : Atomic (write update) s := by
  intro e t hfail
  obtain ⟨e', hfail, -⟩ := failed_write.mp hfail
  exact h e' t hfail

theorem map (h : Atomic work s) (g : α → β) : Atomic (g <$> work) s := by
  intro e t hfail
  refine h e t ?_
  replace hfail : EStateM.map g work s = .error e t := hfail
  unfold EStateM.map at hfail
  cases hwork : work s with
  | ok a t' =>
    rw [hwork] at hfail
    cases hfail
  | error e' t' =>
    rw [hwork] at hfail
    cases hfail
    rfl

/-- Atomic work that gives a failure leaves the state as it was. -/
theorem left_eq (h : Atomic work s) {e : ε} (hfail : outcome work s = .error e) :
    left work s = s := by
  unfold outcome at hfail
  unfold left
  cases hwork : work s with
  | ok a t =>
    rw [hwork] at hfail
    cases hfail
  | error e' t => exact h e' t hwork

end Atomic

/-- Making the cards of a type anew fails only before it has begun. -/
theorem atomic_regenerate (store : Store σ) (scheduler : Scheduler) (typeName : String)
    (options : RegenerationOptions) (s : σ) :
    Atomic (regenerate store scheduler typeName options) s := by
  intro e t hfail
  unfold regenerate at hfail
  dsimp only at hfail
  split at hfail <;> cases hfail
  rfl

/-- What becomes of each card is reported, so deleting cards as a whole does not fail. -/
theorem unfailing_deleteCards (store : Store σ) (ids : List CardId) (s : σ) :
    Unfailing (deleteCards store ids) s := .of_done rfl

end Collection

/-! ## Parts of commands -/

namespace Command

open Collection

variable {σ α : Type} {s t : σ} {a : α} {e : CommandError}

/-- And it leaves what the request leaves. -/
theorem left_perform (work : Work σ α) (s : σ) : left (perform work) s = left work s := by
  unfold left perform
  cases work s <;> rfl

theorem idle_inspect (look : σ → Except CollectionError α) : Idle (inspect look) := by
  intro s
  unfold left inspect
  cases look s <;> rfl

theorem idle_consult (query : Query σ α) : Idle (consult query) := idle_inspect _

theorem idle_found (e : CommandError) (value : Option α) : Idle (found e value : Run σ α) := by
  cases value
  · exact .of_throw e
  · exact .of_pure _

theorem idle_input (value : Except CommandError α) : Idle (input value : Run σ α) := by
  cases value
  · exact .of_throw _
  · exact .of_pure _

/-- To look for the deck of a name changes nothing. -/
theorem idle_deckNamed (store : Store σ) (name : Option String) : Idle (deckNamed store name) := by
  cases name with
  | none => exact .of_pure _
  | some name =>
    refine (idle_consult _).bind fun found => ?_
    cases found
    · exact .of_throw _
    · exact .of_pure _

theorem idle_typeNames (store : Store σ) : Idle (typeNames store) :=
  (idle_consult _).bind fun _ => .of_pure _

/-! ## Commands that only show something -/

/-- Whether a command only shows something. -/
def onlyShows : Command → Bool
  | .noteTypes | .noteType _ | .decks | .cards _ | .duplicates _ _ _ _ | .due _ _ | .deckStats _
  | .reviews _ => true
  | _ => false

/-- A command that only shows something changes nothing, whatever the store. -/
theorem idle_run (store : Store σ) (ctx : CommandContext) {command : Command}
    (h : command.onlyShows = true) : Idle (command.run store ctx) := by
  cases command with
  | init | addNote _ _ _ _ | editNote _ _ _ | editType _ _ _ | regenerate _ | emptyCards _ _
  | answer _ _ _ | flag _ _ => cases h
  | noteTypes => exact idle_typeNames store
  | noteType name =>
    exact (idle_consult _).bind fun found => (idle_found _ found).bind fun _ => .of_pure _
  | decks => exact (idle_consult _).bind fun _ => .of_pure _
  | cards note =>
    refine (idle_consult _).bind fun found => (idle_found _ found).bind fun _ => ?_
    exact (idle_consult _).bind fun _ => .of_pure _
  | duplicates _ _ _ deck =>
    refine (idle_deckNamed store deck).bind fun _ => ?_
    exact (idle_inspect _).bind fun _ => .of_pure _
  | due deck _ =>
    refine (idle_deckNamed store deck).bind fun _ => ?_
    exact (idle_inspect _).bind fun _ => .of_pure _
  | deckStats deck =>
    refine (idle_deckNamed store deck).bind fun _ => ?_
    exact (idle_inspect _).bind fun _ => .of_pure _
  | reviews _ => exact (idle_consult _).bind fun _ => .of_pure _

end Command

end Flashcard
