import Flashcard.Proofs.Memory.History
import Flashcard.Proofs.Memory.Intact

/-!
# Marks of changes

Every change of a collection is marked: a note or card that is new or not what it was bears a mark
above all marks before, and the collection knows of it. So whoever has seen all up to a mark finds
what changed since by the marks alone. This holds of operations that fail part way or are cancelled,
and of a rename, which takes two marks.

- `Memory.Marked`: what a change of a collection does to its marks.
- `Memory.Bounded`: no mark is above that of the collection.
- `Memory.marked_regenerate`, `Memory.marked_after`: batches and all other operations.
- `Memory.marks_every_change`: every operation on every store that can be reached.
-/

namespace Flashcard

namespace Memory

open Collection

/-- Whether all that is in `m'` and not, just as it is, in `m`, bears a mark above `u` that `m'`
knows of. -/
structure Marked (u : Usn) (m m' : Memory) : Prop where
  usn_le : m.usn ≤ m'.usn
  notes : ∀ id stored, m'.notes.get? id = some stored → m.notes.get? id = some stored ∨
    ∃ note, stored = .readable note ∧ u < note.usn ∧ note.usn ≤ m'.usn
  cards : ∀ c, m'.Holds c → m.Holds c ∨ u < c.usn ∧ c.usn ≤ m'.usn

/-- Whether no note and no card bears a mark above that of the collection. -/
structure Bounded (m : Memory) : Prop where
  notes : ∀ id note, m.notes.get? id = some (.readable note) → note.usn ≤ m.usn
  cards : ∀ c ∈ m.cards.values, c.usn ≤ m.usn

variable {op : Operation} {u : Usn} {m m' m'' : Memory}

theorem Marked.refl (u : Usn) (m : Memory) : Marked u m m :=
  ⟨Int.le_refl _, fun _ _ h => Or.inl h, fun _ h => Or.inl h⟩

theorem Marked.trans (h : Marked u m m') (h' : Marked u m' m'') : Marked u m m'' := by
  refine ⟨Int.le_trans h.usn_le h'.usn_le, ?_, ?_⟩
  · intro id stored hget
    rcases h'.notes id stored hget with hget | hmarked
    · rcases h.notes id stored hget with hget | ⟨note, heq, hlt, hle⟩
      · exact Or.inl hget
      · exact Or.inr ⟨note, heq, hlt, Int.le_trans hle h'.usn_le⟩
    · exact Or.inr hmarked
  · intro c hc
    rcases h'.cards c hc with hc | hmarked
    · rcases h.cards c hc with hc | ⟨hlt, hle⟩
      · exact Or.inl hc
      · exact Or.inr ⟨hlt, Int.le_trans hle h'.usn_le⟩
    · exact Or.inr hmarked

/-- What is marked by one step after the other is marked by all of them. -/
theorem marked_of_steps {r : Memory → Memory → Prop} (step : ∀ m m', r m m' → Marked u m m')
    (h : Relation.ReflTransGen r m m') : Marked u m m' := by
  induction h with
  | refl => exact .refl u m
  | tail _ hstep ih => exact ih.trans (step _ _ hstep)

/-- A collection stays bounded, as it knows of all new marks. -/
theorem Bounded.of_marked (h : Bounded m) (marked : Marked u m m') (keyed' : m'.Keyed) :
    Bounded m' := by
  constructor
  · intro id note hget
    rcases marked.notes id _ hget with hget | ⟨_, heq, -, hle⟩
    · exact Int.le_trans (h.notes id note hget) marked.usn_le
    · cases heq
      exact hle
  · intro c hc
    obtain ⟨id, hget⟩ := SortedMap.mem_values_iff.mp hc
    rcases marked.cards c (holds_of_get? keyed' hget) with hc | ⟨-, hle⟩
    · exact Int.le_trans (h.cards c (SortedMap.mem_values_iff.mpr ⟨c.id, hc⟩)) marked.usn_le
    · exact hle

/-! ## Writing -/

/-- Nothing needs a mark if notes and cards stay. -/
theorem marked_of_eq (hnotes : m'.notes = m.notes) (hcards : m'.cards = m.cards)
    (husn : m'.usn = m.usn) : Marked u m m' := by
  refine ⟨Int.le_of_eq husn.symm, ?_, ?_⟩
  · rw [hnotes]
    exact fun _ _ => Or.inl
  · intro c hc
    rw [Holds, hcards] at hc
    exact Or.inl hc

/-- A dropped card needs no mark. -/
theorem marked_dropCard (id : CardId) : Marked u m (m.dropCard id) :=
  ⟨Int.le_refl _, fun _ _ h => Or.inl h, fun _ hc => Or.inl (holds_dropCard.mp hc).2⟩

/-- Writing a card marks it, where its mark is recorded. -/
theorem marked_putCard {c : Card} (hu : u < c.usn) (hnotes : m'.notes = m.notes)
    (hcards : m'.cards = (m.putCard c).cards) (husn : m'.usn = max m.usn c.usn) :
    Marked u m m' := by
  refine ⟨husn ▸ Int.le_max_left .., ?_, ?_⟩
  · rw [hnotes]
    exact fun _ _ => Or.inl
  · intro c' hc'
    rw [Holds, hcards] at hc'
    rcases holds_putCard.mp hc' with rfl | ⟨-, hc'⟩
    · exact Or.inr ⟨hu, husn ▸ Int.le_max_right ..⟩
    · exact Or.inl hc'

section Fit

variable {r : Regenerator} {nt : NoteType} {note : Note}

/-- A plan raises the update sequence number to its own, unless it does nothing. -/
theorem usn_writePlan (m : Memory) (plan : ReconcilePlan) :
    (m.writePlan plan).usn = if plan.isNoop then m.usn else max m.usn plan.usn := by
  rw [writePlan_eq]

/-- A plan that writes a card does something. -/
theorem isNoop_of_mem {plan : ReconcilePlan} {c : Card} (h : c ∈ plan.toCreate ++ plan.toUpdate) :
    plan.isNoop = false := by
  unfold ReconcilePlan.isNoop
  rcases List.mem_append.mp h with h | h
  · rw [List.isEmpty_eq_false_iff.mpr (List.ne_nil_of_mem h)]
    rfl
  · rw [List.isEmpty_eq_false_iff.mpr (List.ne_nil_of_mem h), Bool.and_false]
    rfl

/-- A card that a fitting plan leaves was there, just as it is, or is written by it. -/
theorem IsFit.holds_or_written {n : NoteId} {drafts : List CardDraft} {plan : ReconcilePlan}
    (keyed : m.Keyed) (fit : m.IsFit n drafts plan) {c : Card} (h : (m.writePlan plan).Holds c) :
    m.Holds c ∨ c ∈ plan.toCreate ++ plan.toUpdate := by
  rw [Holds, get?_writePlan (fit.nodup_written keyed)] at h
  split at h
  · cases h
  cases hfind : (plan.toCreate ++ plan.toUpdate).find? (·.id = c.id) with
  | none =>
    rw [hfind] at h
    exact Or.inl h
  | some c' =>
    rw [hfind] at h
    cases h
    exact Or.inr (List.mem_of_find?_eq_some hfind)

/-- A card that is written has the mark of the plan. -/
theorem usn_of_written {existing : List Card} {first : CardId} {c : Card}
    (h : c ∈ (r.fit nt note existing first).toCreate ++ (r.fit nt note existing first).toUpdate) :
    c.usn = r.usn := by
  rcases List.mem_append.mp h with h | h
  · obtain ⟨id, d, -, rfl⟩ := Reconcile.mem_toCreate _ _ _ _ _ h
    rfl
  · obtain ⟨c₀, -, d, rfl⟩ := Reconcile.mem_toUpdate _ _ _ _ _ h
    rfl

/-- A fitting plan marks what it writes with its own mark. -/
theorem marked_fit (keyed : m.Keyed) (hu : u < r.usn) :
    Marked u m (m.writePlan (r.fit nt note (m.cardsOf note.id) (Store.nextId m.cards))) := by
  refine ⟨?_, ?_, ?_⟩
  · rw [usn_writePlan]
    split
    · exact Int.le_refl _
    · exact Int.le_max_left ..
  · intro id stored hget
    rw [notes_writePlan] at hget
    exact Or.inl hget
  · intro c hc
    refine ((isFit_fit r nt note m).holds_or_written keyed hc).imp_right fun hwritten => ?_
    rw [usn_of_written hwritten, usn_writePlan, isNoop_of_mem hwritten]
    exact ⟨hu, Int.le_max_right ..⟩

/-- A note that is written raises the update sequence number to its own. -/
theorem usn_writeNote (note : Note) (plan : ReconcilePlan) (m : Memory) :
    (m.writeNote note plan).usn = max (m.writePlan plan).usn note.usn := by
  rw [writeNote, usn_writePlan]
  show max ((m.putNote note).writePlan plan).usn note.usn = _
  rw [usn_writePlan]
  rfl

/-- A note may be written with a plan that marks its cards, if its own mark is new. -/
theorem Marked.writeNote {plan : ReconcilePlan} (h : Marked u m (m.writePlan plan))
    (hu : u < note.usn) : Marked u m (m.writeNote note plan) := by
  have husn := usn_writeNote note plan m
  have hle : (m.writePlan plan).usn ≤ (m.writeNote note plan).usn := husn ▸ Int.le_max_left ..
  refine ⟨Int.le_trans h.usn_le hle, ?_, ?_⟩
  · intro id stored hget
    rw [get?_writeNote] at hget
    split at hget
    · exact Or.inr ⟨note, (Option.some.inj hget).symm, hu, husn ▸ Int.le_max_right ..⟩
    · exact Or.inl hget
  · intro c hc
    rw [Holds, (cards_writeNote note plan m).1] at hc
    exact (h.cards c hc).imp_right (And.imp_right fun hmark => Int.le_trans hmark hle)

end Fit

/-- The update sequence number is raised to that of every note. -/
theorem le_foldl_usn (notes : List Note) (usn : Usn) :
    usn ≤ notes.foldl (fun usn note => max usn note.usn) usn ∧
      ∀ note ∈ notes, note.usn ≤ notes.foldl (fun usn note => max usn note.usn) usn := by
  induction notes generalizing usn with
  | nil => exact ⟨Int.le_refl _, nofun⟩
  | cons note rest ih =>
    obtain ⟨hstart, hrest⟩ := ih (max usn note.usn)
    refine ⟨Int.le_trans (Int.le_max_left ..) hstart, ?_⟩
    intro note' hnote'
    rcases List.mem_cons.mp hnote' with rfl | hnote'
    · exact Int.le_trans (Int.le_max_right ..) hstart
    · exact hrest note' hnote'

/-- Saving an edited note type marks the notes that it changes. -/
theorem marked_writeNoteType {edit : NoteTypeEdit} {entries : List (Except StoreError Note)}
    {usn : Usn} (nt : NoteType) (hu : u < usn) :
    Marked u m (m.writeNoteType nt (editedNotes edit entries usn)) := by
  rw [writeNoteType_eq]
  obtain ⟨hstart, hnotes⟩ := le_foldl_usn (editedNotes edit entries usn) m.usn
  refine ⟨hstart, ?_, fun _ hc => Or.inl hc⟩
  intro id stored hget
  rcases get?_foldl_putNote (editedNotes edit entries usn) m.notes id with
    ⟨note, hnote, -, heq⟩ | heq
  · have hle := hnotes note hnote
    obtain ⟨old, fields, -, rfl⟩ := mem_editedNotes hnote
    exact Or.inr ⟨_, (Option.some.inj (heq.symm.trans hget)).symm, hu, hle⟩
  · exact Or.inl (heq.symm.trans hget)

/-! ## Every operation -/

/-- A batch marks what it changes above all marks before it, wherever it stops. -/
theorem marked_regenerate (keyed : m.Keyed) (hu : u ≤ m.usn) (scheduler : Scheduler) (typeName : String)
    (options : RegenerationOptions) :
    Marked u m (left (regenerate store scheduler typeName options) m) := by
  rw [left_regenerate]
  cases m.noteTypes.get? typeName with
  | none => exact .refl u m
  | some nt =>
    have hlt : u < (m.regenerator scheduler options.defaultDeck options.now).usn :=
      Int.lt_add_one_iff.mpr hu
    -- all steps of the batch have the one mark that was next when it began
    refine (run_invariant (p := fun m' => m'.Keyed ∧ Marked u m m') _ nt options.cancel _ ?_
      ⟨keyed, .refl u m⟩).2
    intro entry _ b m₁ ⟨keyed₁, h₁⟩
    refine ⟨keyed_step _ nt keyed₁ b entry, h₁.trans ?_⟩
    rcases step_cases b (m.regenerator scheduler options.defaultDeck options.now) nt entry m₁ with
      h | ⟨note, -, -, h⟩
    · rw [h]
      exact .refl u m₁
    · rw [h]
      exact marked_fit keyed₁ hlt

/-- An edit marks the notes that it rewrites and the cards that are generated again. -/
theorem marked_editNoteType (sound : Sound m) (scheduler : Scheduler) (typeName : String)
    (edit : NoteTypeEdit) (options : RegenerationOptions) :
    Marked m.usn m ((Operation.editNoteType scheduler typeName edit options).after store m) := by
  rcases after_editNoteType scheduler typeName edit options m with h | ⟨nt, edited, -, -, h⟩
  · rw [h]
    exact .refl _ m
  · rw [h]
    have hsaved : Marked m.usn m
        (m.writeNoteType edited (editedNotes edit (m.listed typeName) (m.usn + 1))) :=
      marked_writeNoteType edited (Int.lt_succ m.usn)
    split
    · -- saving the notes may have taken a mark, so the batch takes the next one or the same
      refine hsaved.trans (marked_regenerate ?_ hsaved.usn_le scheduler typeName options)
      intro id c hget
      rw [cards_writeNoteType] at hget
      exact sound.keyed id c hget
    · exact hsaved

/-- **What an operation changes is marked** above all marks before it. -/
theorem marked_after (sound : Sound m) (op : Operation) : Marked m.usn m (op.after store m) := by
  have of_eq : ∀ {m' : Memory}, m' = m → Marked m.usn m m' := fun h => h ▸ .refl m.usn m
  have hnext : m.usn < m.usn + 1 := Int.lt_succ m.usn
  cases op with
  | seed deckName =>
    refine marked_of_steps ?_ (changes (.seed deckName) m)
    intro m₁ m₂ hchange
    cases hchange <;> exact marked_of_eq rfl rfl rfl
  | ensureDeck name =>
    rcases after_ensureDeck name m with h | h
    · exact of_eq h
    · generalize (Operation.ensureDeck name).after store m = m' at h
      cases h
      exact marked_of_eq rfl rfl rfl
  | addNote scheduler new =>
    rcases after_addNote scheduler new m with h | h
    · exact of_eq h
    · generalize (Operation.addNote scheduler new).after store m = m' at h
      cases h with
      | @newNote _ _ nt note _ _ _ _ note_eq =>
        have hid : note.id = Store.nextId m.notes := note_eq ▸ rfl
        rw [← cardsOf_nextId sound, ← hid]
        exact (marked_fit sound.keyed hnext).writeNote (note_eq ▸ hnext)
  | updateNote scheduler change =>
    rcases after_updateNote scheduler change m with h | h
    · exact of_eq h
    · generalize (Operation.updateNote scheduler change).after store m = m' at h
      cases h with
      | noteChange _ _ _ note_eq =>
        exact (marked_fit sound.keyed hnext).writeNote (note_eq ▸ hnext)
  | editNoteType scheduler typeName edit options =>
    exact marked_editNoteType sound scheduler typeName edit options
  | regenerate scheduler typeName options =>
    rw [after_regenerate]
    exact marked_regenerate sound.keyed (Int.le_refl _) scheduler typeName options
  | answerCard scheduler answer =>
    rcases after_answerCard scheduler answer m with h | h
    · exact of_eq h
    · generalize (Operation.answerCard scheduler answer).after store m = m' at h
      cases h with
      | @answer _ _ c next _ _ _ _ =>
        exact marked_putCard (c := { c with scheduling := next, usn := m.usn + 1 }) hnext rfl rfl rfl
  | updateCardFlags id update =>
    rcases after_updateCardFlags id update m with h | h
    · exact of_eq h
    · generalize (Operation.updateCardFlags id update).after store m = m' at h
      cases h with
      | flags _ => exact marked_putCard hnext rfl rfl rfl
  | deleteCards ids =>
    refine marked_of_steps ?_ (changes (.deleteCards ids) m)
    intro m₁ m₂ hchange
    cases hchange with
    | deletion _ => exact marked_dropCard _
  | findEmptyCards typeName => exact of_eq (after_question _ _ _)
  | checkDuplicate typeName query => exact of_eq (after_question _ _ _)
  | dueCards deck now limit => exact of_eq (after_question _ _ _)
  | deckStats deck now => exact of_eq (after_question _ _ _)

/-! ## Every store that can be reached -/

/-- In the beginning there are no marks. -/
theorem bounded_empty : Bounded {} := ⟨(fun _ _ h => nomatch h), (fun _ h => nomatch h)⟩

/-- After a request marks are still bounded. -/
theorem Bounded.after (h : Bounded m) (sound : Sound m) (op : Operation) :
    Bounded (op.after store m) := h.of_marked (marked_after sound op) (sound.after op).keyed

/-- And after any event. -/
theorem Bounded.apply (h : Bounded m) (sound : Sound m) (event : Event) :
    Bounded (event.apply m) := by
  cases event with
  | operation op => exact h.after sound op
  | failNote id => exact ⟨h.notes, h.cards⟩
  | spoilNote id typeName reason =>
    refine ⟨?_, h.cards⟩
    intro id' note hget
    rcases SortedMap.get?_insert_eq_some_iff.mp hget with ⟨-, heq⟩ | ⟨-, hget⟩
    · cases heq
    · exact h.notes id' note hget

/-- So they are in all that is reached. -/
theorem bounded_reached (events : List Event) : Bounded (reached events) := by
  have hall : ∀ {m : Memory}, Sound m → Bounded m →
      Bounded (events.foldl (fun m event => event.apply m) m) := by
    induction events with
    | nil => exact fun _ h => h
    | cons event rest ih => exact fun sound h => ih (sound.apply event) (h.apply sound event)
  exact hall sound_empty bounded_empty

/-- **Each operation marks all that it changes**, on each store that operations and faults lead to:
what is new or not what it was bears a mark above that of the collection before, and none is above
that of the collection afterwards, which never falls. -/
theorem marks_every_change (events : List Event) (op : Operation) :
    Marked (reached events).usn (reached events) (op.after store (reached events)) ∧
      Bounded (op.after store (reached events)) :=
  ⟨marked_after (sound_reached events) op, (bounded_reached events).after (sound_reached events) op⟩

end Memory

end Flashcard
