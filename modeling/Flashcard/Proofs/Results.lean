import Flashcard.Proofs.Operation

/-!
# How work ends

Work on a store ends well, with a value and a state, or it fails, and then leaves a state as well. How
a composition ends is known from how its parts end, so that no proof has to open a `do` block.

- `done_bind`, `failed_bind`: one piece of work after another.
- `done_write`, `failed_write` and their like: the pieces.
- `done_updateNote`: a change of a note, from its pieces.
- `done_iff`: how work ends is its outcome and the state that it leaves.
-/

namespace Flashcard

namespace Collection

variable {ε σ α β : Type}

section Bind

variable {work : EStateM ε σ α} {f : α → EStateM ε σ β} {g : α → β} {s t : σ} {a a' : α} {b : β} {e : ε}

theorem done_bind :
    (work >>= f) s = .ok b t ↔ ∃ a s', work s = .ok a s' ∧ f a s' = .ok b t := by
  show EStateM.bind work f s = .ok b t ↔ _
  unfold EStateM.bind
  cases work s <;> simp [and_assoc]

/-- A composition fails in its first part, or in its second one after the first has ended well. -/
theorem failed_bind :
    (work >>= f) s = .error e t ↔
      work s = .error e t ∨ ∃ a s', work s = .ok a s' ∧ f a s' = .error e t := by
  show EStateM.bind work f s = .error e t ↔ _
  unfold EStateM.bind
  cases work s <;> simp [and_assoc]

theorem done_map : (g <$> work) s = .ok b t ↔ ∃ a, work s = .ok a t ∧ g a = b := by
  show EStateM.map g work s = .ok b t ↔ _
  unfold EStateM.map
  cases work s <;> simp [and_assoc, and_comm]

/-- How work ends is its outcome and the state that it leaves. -/
theorem done_iff : work s = .ok a t ↔ outcome work s = .ok a ∧ left work s = t := by
  unfold outcome left
  cases work s <;> simp [valueOf, stateOf]

end Bind

section Pieces

variable {s t : σ} {a : α} {e : CollectionError}

theorem done_write {update : Update σ α} : write update s = .ok a t ↔ update s = .ok a t := by
  unfold write
  cases update s <;> simp

theorem failed_write {update : Update σ α} :
    write update s = .error e t ↔ ∃ e', update s = .error e' t ∧ e = .store e' := by
  unfold write
  cases update s <;> simp [and_assoc, and_comm, eq_comm]

theorem done_question {query : σ → Except CollectionError α} :
    question query s = .ok a t ↔ query s = .ok a ∧ s = t := by
  unfold question demand
  cases query s <;> simp

end Pieces

/-- A change of a note goes through if there is a plan for it and the store takes the plan. -/
theorem done_updateNote {store : Store σ} {scheduler : Scheduler} {change : NoteChange}
    {plan : ReconcilePlan} {s t : σ} :
    updateNote store scheduler change s = .ok plan t ↔
      ∃ note, planNoteChange store scheduler change s = .ok (note, plan) ∧
        store.applyNotePlan note plan s = .ok () t := by
  rw [updateNote_eq, done_bind]
  constructor
  · rintro ⟨⟨note, plan'⟩, _, hplan, hrest⟩
    obtain ⟨planned, rfl⟩ := done_question.mp hplan
    obtain ⟨_, _, taken, rfl, rfl⟩ := done_bind.mp hrest
    exact ⟨note, planned, done_write.mp taken⟩
  · rintro ⟨note, planned, taken⟩
    exact ⟨(note, plan), s, done_question.mpr ⟨planned, rfl⟩,
      done_bind.mpr ⟨(), t, done_write.mpr taken, rfl⟩⟩

end Collection

end Flashcard
