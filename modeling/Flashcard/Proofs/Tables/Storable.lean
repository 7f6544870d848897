import Flashcard.Proofs.Memory.Intact
import Flashcard.Proofs.Memory.Origin
import Flashcard.Proofs.Scheduling.Numeric
import Flashcard.Proofs.Tables.Row
import Flashcard.Proofs.Time.Timestamp

/-!
# Collections that tables can hold

Tables ask more of a collection than memory does: the decks of cards have to be there, sort
positions have to be positions of fields, and columns of times only know instants of some years to
the millisecond. Operations lead to such collections, as long as the instants and decks that they
are given are such, too, and their schedulers make nothing else of such instants.

- `Operation.instants`: the instants that an operation is given.
- `Scheduler.Storable`: schedulers whose states and records tables can hold. `Sm2.storable`: SM-2 is
  one.
- `Tables.Storable`: the invariant.
- `Tables.Storable.after`: each operation keeps it.
-/

namespace Flashcard

/-- Whether an instant survives in tables: it has no part below a millisecond, and lies in the years
0000 to 9999 and in no leap second. -/
structure Timestamp.Timely (t : Timestamp) : Prop where
  whole : t.WholeMillis
  years : t.InYears
  ordinary : ¬ t.InLeapSecond

theorem Timestamp.Timely.counted {t : Timestamp} (h : t.Timely) : t.Counted :=
  ⟨h.whole, h.ordinary⟩

theorem Timestamp.Timely.readsBack {t : Timestamp} (h : t.Timely) : Tables.TimeReadsBack t :=
  readExact_renderOffset_iff.mpr ⟨h.years, Or.inl h.counted.nano_lt⟩

namespace Collection.Operation

/-- The instants that an operation writes to the store or has the store compare with others. -/
def instants : Operation → List Timestamp
  | .addNote _ new => [new.now]
  | .updateNote _ change => [change.now]
  | .editNoteType _ _ _ options | .regenerate _ _ options => [options.now]
  | .answerCard _ answer => [answer.now]
  | .dueCards _ now _ => [now]
  | _ => []

end Collection.Operation

/-- Whether tables can hold what a scheduler makes of instants that they can hold: cards are due at
instants that milliseconds tell apart, and answers that lead from finite states to finite states are
recorded in numbers. -/
structure Scheduler.Storable (scheduler : Scheduler) : Prop where
  newDue : ∀ {now due : Timestamp}, now.Timely → (scheduler.newCard now).dueDate = some due → due.Counted
  due : ∀ {state next : SchedulingState} {rating : Rating} {now due : Timestamp} {review : Review},
    scheduler.answer? state rating now = some (next, review) → now.Timely →
      next.dueDate = some due → due.Counted
  reviewed : ∀ {state next : SchedulingState} {rating : Rating} {now : Timestamp} {review : Review},
    scheduler.answer? state rating now = some (next, review) → now.Timely → review.reviewedAt.Timely
  numeric : ∀ {state next : SchedulingState} {rating : Rating} {now : Timestamp} {review : Review},
    scheduler.answer? state rating now = some (next, review) → state.Finite → next.Finite →
      review.Numeric

/-- **SM-2 makes what tables can hold**, whatever its parameters: a card is due at once, or whole days
after its answer, and the doubles of a record are those of the states before and after it. -/
theorem Sm2.storable (p : Sm2) : p.scheduler.Storable where
  newDue timely hdue := Option.some.inj hdue ▸ timely.counted
  due answered timely hdue := by
    obtain ⟨_, hadd, rfl, -⟩ := answer?_eq_some_iff.mp answered
    exact Timestamp.counted_addDays timely.counted (Option.some.inj hdue ▸ hadd)
  reviewed answered timely := by
    obtain ⟨_, -, -, rfl⟩ := answer?_eq_some_iff.mp answered
    exact timely
  numeric answered before after := (records_answer answered).numeric before.numeric after.numeric

namespace Tables

open Collection Memory

/-- What is true of a collection that tables can hold. -/
structure Storable (m : Memory) : Prop where
  intact : Intact m
  /-- The decks of cards are there. -/
  housed : ∀ c, m.Holds c → m.decks.contains c.deckId = true
  /-- Notes are sorted by a field. -/
  sorted : ∀ name nt, m.noteTypes.get? name = some nt → nt.sortIndex < nt.fields.length
  noteTimes : ∀ id note, m.notes.get? id = some (.readable note) →
    note.createdAt.Timely ∧ note.modifiedAt.Timely
  dueTimes : ∀ c, m.Holds c → ∀ due, c.scheduling.dueDate = some due → due.Counted
  reviewTimes : ∀ e ∈ m.reviews, e.2.reviewedAt.Timely

theorem storable_empty : Storable {} where
  intact := intact_empty
  housed _ h := nomatch h
  sorted _ _ h := nomatch h
  noteTimes _ _ h := nomatch h
  dueTimes _ h := nomatch h
  reviewTimes _ h := nomatch h

/-- What an operation has to be given: instants that survive in tables, a scheduler that makes nothing
else of them, and a deck that is there. -/
structure Given (op : Operation) (m : Memory) : Prop where
  timely : ∀ t ∈ op.instants, t.Timely
  storable : ∀ scheduler ∈ op.scheduler?, scheduler.Storable
  deck : ∀ id, op.defaultDeck? = some id → m.decks.contains id = true

variable {op : Operation} {m m' : Memory}

theorem Given.change (h : Given op m) (hchange : Change op m m') : Given op m' :=
  ⟨h.timely, h.storable, fun id hid => contains_decks_change hchange (h.deck id hid)⟩

/-! ## Cards of a fitting plan -/

section Fit

variable {r : Regenerator} {nt : NoteType} {note : Note} {first : CardId}

/-- The decks of the cards that a plan writes are there. -/
theorem housed_fit (h : Storable m) (deck : m.decks.contains r.defaultDeck = true)
    (decks_eq : r.decks = m.deckIds) :
    ∀ c ∈ (r.fit nt note (m.cardsOf note.id) first).toCreate ++
      (r.fit nt note (m.cardsOf note.id) first).toUpdate, m.decks.contains c.deckId = true := by
  have keyed := h.intact.sound.keyed
  intro c hc
  rcases List.mem_append.mp hc with hc | hc
  · obtain ⟨id, d, -, rfl⟩ := Reconcile.mem_toCreate _ _ _ _ _ hc
    refine (offers_deckFor h.intact.sound decks_eq note.id d.templateName).contains h.housed ?_
    intro id hid
    exact Option.some.inj hid ▸ deck
  · obtain ⟨c₀, hc₀, d, rfl⟩ := Reconcile.mem_toUpdate _ _ _ _ _ hc
    exact h.housed c₀ ((mem_cardsOf keyed).mp hc₀).1

/-- The cards after a plan are in decks that are there, and their due times survive. -/
theorem cards_writePlan (h : Storable m) (deck : m.decks.contains r.defaultDeck = true)
    (decks_eq : r.decks = m.deckIds) (timely : r.now.Timely) (storable : r.scheduler.Storable) {c : Card}
    (hc : (m.writePlan (r.fit nt note (m.cardsOf note.id) (Store.nextId m.cards))).Holds c) :
    m.decks.contains c.deckId = true ∧
      ∀ due, c.scheduling.dueDate = some due → due.Counted := by
  cases fitOrigin h.intact.sound decks_eq hc with
  | kept held => exact ⟨h.housed c held, h.dueTimes c held⟩
  | @refreshed c₀ _ _ held card_eq =>
    subst card_eq
    exact ⟨h.housed c₀ held, h.dueTimes c₀ held⟩
  | new _ scheduling_eq offered =>
    refine ⟨offered.contains h.housed fun id hid => Option.some.inj hid ▸ deck, ?_⟩
    intro due hdue
    rw [scheduling_eq] at hdue
    exact storable.newDue timely hdue

theorem Storable.writePlan (h : Storable m) (deck : m.decks.contains r.defaultDeck = true)
    (decks_eq : r.decks = m.deckIds) (timely : r.now.Timely) (storable : r.scheduler.Storable)
    (intact' : Intact (m.writePlan (r.fit nt note (m.cardsOf note.id) (Store.nextId m.cards)))) :
    Storable (m.writePlan (r.fit nt note (m.cardsOf note.id) (Store.nextId m.cards))) := by
  refine ⟨intact', ?_, ?_, ?_, ?_, ?_⟩
  · intro c hc
    rw [decks_writePlan]
    exact (cards_writePlan h deck decks_eq timely storable hc).1
  · rw [noteTypes_writePlan]
    exact h.sorted
  · rw [notes_writePlan]
    exact h.noteTimes
  · intro c hc
    exact (cards_writePlan h deck decks_eq timely storable hc).2
  · intro e he
    rw [reviews_writePlan] at he
    exact h.reviewTimes e (List.mem_filter.mp he).1

theorem Storable.writeNote (h : Storable m) (deck : m.decks.contains r.defaultDeck = true)
    (decks_eq : r.decks = m.deckIds) (timely : r.now.Timely) (storable : r.scheduler.Storable)
    (noteTimes : note.createdAt.Timely ∧ note.modifiedAt.Timely)
    (intact' : Intact
      (m.writeNote note (r.fit nt note (m.cardsOf note.id) (Store.nextId m.cards)))) :
    Storable (m.writeNote note (r.fit nt note (m.cardsOf note.id) (Store.nextId m.cards))) := by
  obtain ⟨hcards, hreviews⟩ :=
    cards_writeNote note (r.fit nt note (m.cardsOf note.id) (Store.nextId m.cards)) m
  have hholds : ∀ {c}, (m.writeNote note
      (r.fit nt note (m.cardsOf note.id) (Store.nextId m.cards))).Holds c →
        m.decks.contains c.deckId = true ∧
          ∀ due, c.scheduling.dueDate = some due → due.Counted := by
    intro c hc
    rw [Holds, hcards] at hc
    exact cards_writePlan h deck decks_eq timely storable hc
  refine ⟨intact', ?_, ?_, ?_, fun c hc => (hholds hc).2, ?_⟩
  · intro c hc
    rw [decks_writeNote]
    exact (hholds hc).1
  · rw [noteTypes_writeNote]
    exact h.sorted
  · intro id note' hget
    rw [get?_writeNote] at hget
    split at hget
    · cases hget
      exact noteTimes
    · exact h.noteTimes id note' hget
  · intro e he
    rw [hreviews, reviews_writePlan] at he
    exact h.reviewTimes e (List.mem_filter.mp he).1

end Fit

/-! ## Every change -/

/-- Where cards only lose others and notes stay, only types and decks may be new. -/
theorem Storable.of_cards (h : Storable m) (intact' : Intact m')
    (hcards : ∀ c, m'.Holds c → m.Holds c)
    (hdecks : ∀ id, m.decks.contains id = true → m'.decks.contains id = true)
    (hnotes : m'.notes = m.notes) (hreviews : ∀ e ∈ m'.reviews, e ∈ m.reviews)
    (sorted' : ∀ name nt, m'.noteTypes.get? name = some nt → nt.sortIndex < nt.fields.length) :
    Storable m' := by
  refine ⟨intact', fun c hc => hdecks _ (h.housed c (hcards c hc)), sorted', ?_,
    fun c hc => h.dueTimes c (hcards c hc), fun e he => h.reviewTimes e (hreviews e he)⟩
  rw [hnotes]
  exact h.noteTimes

theorem sorted_insert {types : SortedMap String NoteType} {nt : NoteType}
    (h : ∀ name nt, types.get? name = some nt → nt.sortIndex < nt.fields.length)
    (hnt : nt.sortIndex < nt.fields.length) (name : String) (nt' : NoteType)
    (hget : (types.insert nt.name nt).get? name = some nt') :
    nt'.sortIndex < nt'.fields.length := by
  rcases SortedMap.get?_insert_eq_some_iff.mp hget with ⟨rfl, rfl⟩ | ⟨-, hget⟩
  · exact hnt
  · exact h name nt' hget

/-- A card with other marks or another state. -/
theorem Storable.putCard (h : Storable m) {c c' : Card} (found : m.Holds c)
    (intact' : Intact m') (hcards : m'.cards = (m.putCard c').cards) (hdeck : c'.deckId = c.deckId)
    (hdue : ∀ due, c'.scheduling.dueDate = some due → due.Counted) (hdecks : m'.decks = m.decks)
    (hnotes : m'.notes = m.notes) (htypes : m'.noteTypes = m.noteTypes)
    (reviewTimes' : ∀ e ∈ m'.reviews, e.2.reviewedAt.Timely) : Storable m' := by
  have hholds : ∀ {d}, m'.Holds d → d = c' ∨ m.Holds d := by
    intro d hd
    rw [Holds, hcards] at hd
    exact (holds_putCard.mp hd).imp_right And.right
  refine ⟨intact', ?_, ?_, ?_, ?_, reviewTimes'⟩
  · intro d hd
    rw [hdecks]
    rcases hholds hd with rfl | hd
    · rw [hdeck]
      exact h.housed c found
    · exact h.housed d hd
  · rw [htypes]
    exact h.sorted
  · rw [hnotes]
    exact h.noteTimes
  · intro d hd
    rcases hholds hd with rfl | hd
    · exact hdue
    · exact h.dueTimes d hd

theorem Storable.refit {scheduler : Scheduler} {typeName : String} {options : RegenerationOptions}
    (h : Storable m) (hrefit : Refit scheduler typeName options m m')
    (deck : m.decks.contains options.defaultDeck = true) (timely : options.now.Timely)
    (storable : scheduler.Storable) (intact' : Intact m') : Storable m' := by
  cases hrefit with
  | fit scheduler_eq deck_eq now_eq decks_eq =>
    exact h.writePlan (deck_eq ▸ deck) decks_eq (now_eq ▸ timely) (scheduler_eq ▸ storable) intact'

/-- **Collections stay storable** by each single change of an operation that is given what it
needs. -/
theorem Storable.change (hchange : Change op m m') (given : Given op m) (h : Storable m) :
    Storable m' := by
  have intact' := h.intact.change hchange
  have keyed := h.intact.sound.keyed
  cases hchange with
  | stockType stock _ =>
    exact h.of_cards intact' (fun _ => id) (fun _ => id) rfl (fun _ => id)
      (sorted_insert h.sorted (NoteType.sortIndex_stock _ stock))
  | stockDeck _ | newDeck _ =>
    exact h.of_cards intact' (fun _ => id)
      (fun _ hid => SortedMap.contains_insert.mpr (Or.inr hid)) rfl (fun _ => id) h.sorted
  | @newNote scheduler new nt note _ _ _ deck note_eq =>
    have timely : new.now.Timely := given.timely _ (List.mem_singleton_self _)
    have hid : note.id = Store.nextId m.notes := note_eq ▸ rfl
    rw [← cardsOf_nextId h.intact.sound, ← hid] at intact' ⊢
    exact h.writeNote deck rfl timely (given.storable _ rfl) (note_eq ▸ ⟨timely, timely⟩) intact'
  | @noteChange scheduler change nt old note _ found _ _ note_eq =>
    have timely : change.now.Timely := given.timely _ (List.mem_singleton_self _)
    exact h.writeNote (given.deck _ rfl) rfl timely (given.storable _ rfl)
      (note_eq ▸ ⟨(h.noteTimes _ _ found).1, timely⟩) intact'
  | @edit _ typeName edit _ nt edited _ typed edited_eq =>
    have hwritten := writeNoteType_eq m edited (editedNotes edit (m.listed typeName) (m.usn + 1))
    rw [hwritten] at intact' ⊢
    refine ⟨intact', h.housed, sorted_insert h.sorted
      (NoteType.sortIndex_edit edited_eq (h.sorted _ _ typed)), ?_,
      h.dueTimes, h.reviewTimes⟩
    intro id note hget
    -- a note of the type keeps both of its times
    rcases get?_foldl_putNote (editedNotes edit (m.listed typeName) (m.usn + 1)) m.notes id with
      ⟨note', hnote', -, heq⟩ | heq
    · cases heq.symm.trans hget
      obtain ⟨old, fields, hold, rfl⟩ := mem_editedNotes hnote'
      obtain ⟨-, id', hget'⟩ := mem_listed hold
      exact h.noteTimes id' old hget'
    · exact h.noteTimes id note (heq.symm.trans hget)
  | editedCards refit | newCards refit =>
    exact h.refit refit (given.deck _ rfl) (given.timely _ (List.mem_singleton_self _))
      (given.storable _ rfl) intact'
  | @answer scheduler answer c next review _ found answered =>
    have timely : answer.now.Timely := given.timely _ (List.mem_singleton_self _)
    have storable : scheduler.Storable := given.storable _ rfl
    have hreviewed : review.reviewedAt.Timely := storable.reviewed answered timely
    refine h.putCard (holds_of_get? keyed found) intact' rfl rfl
      (fun due hdue => storable.due answered timely hdue) rfl rfl rfl ?_
    intro e he
    rcases List.mem_append.mp he with he | he
    · exact h.reviewTimes e he
    · obtain rfl := List.mem_singleton.mp he
      exact hreviewed
  | @flags id update c _ found =>
    have hholds := holds_of_get? keyed found
    exact h.putCard hholds intact' rfl rfl (h.dueTimes c hholds) rfl rfl rfl h.reviewTimes
  | deletion _ =>
    exact h.of_cards intact' (fun c hc => (holds_dropCard.mp hc).2) (fun _ => id) rfl
      (fun e he => (List.mem_filter.mp he).1) h.sorted

/-- **Collections stay storable** by each operation that is given what it needs. -/
theorem Storable.after (h : Storable m) (given : Given op m) :
    Storable (op.after Memory.store m) :=
  (after_invariant (p := fun m => Storable m ∧ Given op m)
    (fun _ _ hchange h => ⟨h.1.change hchange h.2, h.2.change hchange⟩) ⟨h, given⟩).1

end Tables

end Flashcard
