import Flashcard.Proofs.Memory.Rerun
import Flashcard.Proofs.Memory.Unmarked

/-!
# Cancelled and resumed

Making cards anew can be cancelled between any two notes. The cards of the notes behind the cut are then
as they were. A second run finds nothing to do for the notes in front of it and takes no ids for them,
so that it goes on where the first one stopped and ends where one uninterrupted run ends, but for marks.

- `Memory.batchOfFirst`: the batch over the first notes of a type, which tells when a cut is seen.
- `Memory.Handled`: what a batch may do to the cards of a note.
- `Memory.MarksKept`: cards that were not written have their marks.
- `Memory.Resumed`: what a run, a cancelled run and the run after it have to do with each other.

## Main statements

- `Memory.resumed_batch`: for filed stores.
- `Memory.regenerate_resumable`: for every store in memory.
-/

namespace Flashcard

namespace Memory

open Collection

/-! ## Notes handled once -/

/-- What a batch may do to the cards of a note: nothing, or fit them with ids above those in use. -/
def Handled (nt : NoteType) (n : NoteId) (m m' : Memory) : Prop :=
  SameNote n m m' ∨ ∃ (r : Regenerator) (note : Note) (first : CardId),
    (∀ c ∈ m.cardsOf n, c.id < (IdSequence.startingAt first).next) ∧
      FittedNote n (r.fit nt note (m.cardsOf n) first) m m'

/-- A card that is what it was, but perhaps for its mark, has its mark too: it was not written. -/
def MarksKept (m m' : Memory) : Prop :=
  ∀ id c c', m.cards.get? id = some c → m'.cards.get? id = some c' → c'.unmarked = c.unmarked →
    c' = c

section Handled

variable {m m' m'' : Memory} {nt : NoteType} {n : NoteId}

theorem SameNote.trans_handled (h : SameNote n m m') (h' : Handled nt n m' m'') :
    Handled nt n m m'' := by
  rcases h' with hsame | ⟨r, note, first, above, hfits⟩
  · exact .inl (h.trans hsame)
  · rw [h.cards] at above hfits
    exact .inr ⟨r, note, first, above, h.trans_fitted hfits⟩

theorem Handled.trans_same (h : Handled nt n m m') (h' : SameNote n m' m'') :
    Handled nt n m m'' := by
  rcases h with hsame | ⟨r, note, first, above, hfits⟩
  · exact .inl (hsame.trans h')
  · exact .inr ⟨r, note, first, above, hfits.trans_same h'⟩

/-- A batch handles each note once. -/
theorem run_handled (r : Regenerator) (cancel : CancelSignal)
    {entries : List (Except StoreError Note)} (b : Batch) (keyed : m.Keyed)
    (distinct : (idsOf entries).Nodup) (n : NoteId) :
    Handled nt n m (b.run store r nt cancel entries m).2 := by
  by_cases hlisted : ∃ note, .ok note ∈ entries ∧ note.id = n
  · obtain ⟨note, hnote, rfl⟩ := hlisted
    rcases run_listed r nt cancel b keyed distinct hnote with
      ⟨hsame, -⟩ | ⟨-, first, above, hfits⟩
    · exact .inl hsame
    · exact .inr ⟨r, note, first, above, hfits⟩
  · exact .inl (run_other r nt cancel b keyed fun note hnote hid => hlisted ⟨note, hnote, hid⟩)

/-- A card of the outcome of a plan that is a stored one, but perhaps for its mark, is that card. -/
theorem eq_of_mem_outcome {existing : List Card} {drafts : List CardDraft} {ctx : ReconcileContext}
    {ids : IdSequence} (distinct : (existing.map (·.id)).Nodup)
    (above : ∀ c ∈ existing, c.id < ids.next) {c c' : Card} (hc : c ∈ existing)
    (hc' : c' ∈ (reconcile existing drafts nt ctx ids).1.outcome existing)
    (heq : c'.unmarked = c.unmarked) : c' = c := by
  have hid : c'.id = c.id := by simpa using congrArg Card.id heq
  rcases (Reconcile.mem_outcome drafts nt ctx ids distinct).mp hc' with ⟨p, hp, rfl⟩ | hnew
  · rw [Reconcile.id_settle] at hid
    obtain rfl := List.inj_on_of_nodup_map distinct
      (Reconcile.mem_kept (Reconcile.mem_matched.mp hp).2.1).1 hc hid
    -- a card gets another mark only with another content
    by_cases hshows : Reconcile.shows p.1 p.2 = true
    · rw [Reconcile.settle, if_pos hshows]
    · rw [Reconcile.settle, if_neg hshows] at heq
      have hfront : p.2.front = p.1.front := congrArg Card.front heq
      have hback : p.2.back = p.1.back := congrArg Card.back heq
      exact absurd (Reconcile.shows_iff.mpr ⟨hfront.symm, hback.symm⟩) hshows
  · exact absurd hid
      (Int.ne_of_gt (Reconcile.id_lt_of_mem_toCreate existing drafts nt ctx ids above hc hnew))

/-- **Marks are kept** where each note is handled. -/
theorem marksKept_of_handled (keyed : m.Keyed) (keyed' : m'.Keyed)
    (handled : ∀ n, Handled nt n m m') : MarksKept m m' := by
  intro id c c' hget hget' heq
  have hholds := holds_of_get? keyed hget
  have hholds' := holds_of_get? keyed' hget'
  have hid : c'.id = c.id := by simpa using congrArg Card.id heq
  have hnote : c'.noteId = c.noteId := by simpa using congrArg Card.noteId heq
  have hmem : c ∈ m.cardsOf c.noteId := (mem_cardsOf keyed).mpr ⟨hholds, rfl⟩
  have hmem' : c' ∈ m'.cardsOf c.noteId := (mem_cardsOf keyed').mpr ⟨hholds', hnote⟩
  rcases handled c.noteId with hsame | ⟨r, note, first, above, hfits⟩
  · rw [hsame.cards] at hmem'
    exact ((mem_cardsOf keyed).mp hmem').1.eq_of_id hholds hid
  · exact eq_of_mem_outcome (nodup_ids_cardsOf keyed _) above hmem (hfits.cards.mem_iff.mp hmem') heq

end Handled

/-! ## Cuts -/

/-- The ids of the notes of a type, in the order in which they are listed. -/
def listedIds (m : Memory) (typeName : String) : List NoteId :=
  (m.notes.entries.filter fun e => typeOf e.2 == typeName).map (·.1)

/-- The batch over the first notes of a type, as many as given. -/
def batchOfFirst (m : Memory) (scheduler : Scheduler) (typeName : String) (options : RegenerationOptions)
    (nt : NoteType) (k : Nat) : Batch × Memory :=
  Batch.run ⟨{ noteType := typeName, notesTotal := (m.listed typeName).length }, {}⟩ store
    (m.regenerator scheduler options.defaultDeck options.now) nt neverCancelled
    ((m.listed typeName).take k) m

/-- What an uninterrupted run, a run that is cancelled after some notes, and the run after that have
to do with each other. -/
structure Resumed (typeName : String) (k : Nat) (m whole part resumed : Memory) : Prop where
  /-- The two runs end where the uninterrupted one ends, but for marks. -/
  same : resumed.unmarked = whole.unmarked
  /-- Only cards that were written can differ in their marks. -/
  marks : MarksKept m whole ∧ MarksKept m resumed
  /-- The cancelled run leaves the cards of all notes behind the cut alone, with their reviews. -/
  untouched : ∀ n ∈ (m.listedIds typeName).drop k, SameNote n m part

section Cut

variable {m : Memory} {typeName : String} {nt : NoteType}

theorem idsOf_append (entries later : List (Except StoreError Note)) :
    idsOf (entries ++ later) = idsOf entries ++ idsOf later := by
  rw [idsOf, List.filterMap_append, List.map_append, idsOf, idsOf]

theorem nodup_listedIds (m : Memory) (typeName : String) : (m.listedIds typeName).Nodup :=
  m.notes.nodup_keys.sublist (List.filter_sublist.map _)

/-- A note among the first listed ones has one of the first ids. -/
theorem id_mem_take_listedIds (filed : Filed m) {k : Nat} {note : Note}
    (hnote : .ok note ∈ (m.listed typeName).take k) : note.id ∈ (m.listedIds typeName).take k := by
  rw [listed, ← List.map_take] at hnote
  obtain ⟨⟨id, stored⟩, hmem, hread⟩ := List.mem_map.mp hnote
  cases stored with
  | unreadable _ _ => cases hread
  | readable note' =>
    cases hread
    have hentry := (List.mem_filter.mp (List.mem_of_mem_take hmem)).1
    have hid : note.id = id := filed.notes id note (SortedMap.get?_eq_some_iff.mpr hentry)
    rw [listedIds, ← List.map_take, hid]
    exact List.mem_map_of_mem (f := (·.1)) hmem

/-- A batch over the first notes leaves the cards of the others alone, be they readable or not. -/
theorem untouched_batchOfFirst (filed : Filed m) (scheduler : Scheduler) (options : RegenerationOptions)
    {k : Nat} {n : NoteId} (hn : n ∈ (m.listedIds typeName).drop k) :
    SameNote n m (m.batchOfFirst scheduler typeName options nt k).2 := by
  refine run_other _ nt neverCancelled _ filed.cards ?_
  rintro note hnote rfl
  have hsplit := nodup_listedIds m typeName
  rw [← List.take_append_drop k (m.listedIds typeName)] at hsplit
  exact (List.nodup_append.mp hsplit).2.2 _ (id_mem_take_listedIds filed hnote) _ hn rfl

end Cut

/-! ## Two runs and one -/

/-- The same run, without anyone who could cancel it. -/
def quiet (options : RegenerationOptions) : RegenerationOptions :=
  { options with cancel := neverCancelled }

section Runs

variable {m : Memory} (scheduler : Scheduler) (typeName : String) (options : RegenerationOptions)
  {nt : NoteType} (k : Nat)

theorem sameNotes_batchOfFirst (m : Memory) (nt : NoteType) :
    SameNotes m (m.batchOfFirst scheduler typeName options nt k).2 := sameNotes_run ..

/-- The marks apart, a batch that begins after the first notes goes by the same as the one before. -/
theorem unmarked_regenerator (m : Memory) (nt : NoteType) :
    ((m.batchOfFirst scheduler typeName options nt k).2.regenerator scheduler options.defaultDeck
      options.now).unmarked =
      (m.regenerator scheduler options.defaultDeck options.now).unmarked := by
  have hdecks : (m.batchOfFirst scheduler typeName options nt k).2.decks = m.decks :=
    run_same _ nt neverCancelled (·.decks) decks_writePlan _ _ m
  rw [regenerator, deckIds, hdecks]
  rfl

/-- A whole run works on the first notes, and then on the rest. -/
theorem batch_quiet (m : Memory) (nt : NoteType) :
    m.batch scheduler typeName (quiet options) nt =
      (m.batchOfFirst scheduler typeName options nt k).1.run store
        (m.regenerator scheduler options.defaultDeck options.now) nt neverCancelled
        ((m.listed typeName).drop k) (m.batchOfFirst scheduler typeName options nt k).2 := by
  have uncancelled : ∀ progress, neverCancelled progress = false := fun _ => rfl
  rw [batch, batchOfFirst, ← run_append _ nt uncancelled, List.take_append_drop]
  rfl

variable (filed : Filed m) (typed : m.noteTypes.get? typeName = some nt)

include filed

theorem keyed_batchOfFirst (nt : NoteType) :
    (m.batchOfFirst scheduler typeName options nt k).2.Keyed := keyed_run _ nt _ filed.cards _

/-- No note stands in front of a cut and behind it. -/
theorem nodup_idsOf_split :
    (idsOf ((m.listed typeName).take k)).Nodup ∧ (idsOf ((m.listed typeName).drop k)).Nodup ∧
      ∀ note, .ok note ∈ (m.listed typeName).take k →
        ∀ note', .ok note' ∈ (m.listed typeName).drop k → note'.id ≠ note.id := by
  have distinct := nodup_idsOf_listed filed typeName
  rw [← List.take_append_drop k (m.listed typeName), idsOf_append] at distinct
  obtain ⟨hfirst, hrest, hother⟩ := List.nodup_append.mp distinct
  refine ⟨hfirst, hrest, fun note hnote note' hnote' heq => ?_⟩
  exact hother _ (mem_idsOf hnote) _ (mem_idsOf hnote') heq.symm

include typed

/-- What the first notes need is done when the batch over them is. -/
theorem current_batchOfFirst :
    (m.batchOfFirst scheduler typeName options nt k).2.Current nt ((m.listed typeName).take k) :=
  current_run _ nt neverCancelled _ filed.cards (nodup_idsOf_split typeName k filed).1
    (fun _ hnote => named_listed filed typed (List.mem_of_mem_take hnote)) fun _ => rfl

/-- A second run finds nothing to do for the first notes and goes on with the rest. -/
theorem batch_resumed :
    ∃ b : Batch,
      ((m.batchOfFirst scheduler typeName options nt k).2.batch scheduler typeName (quiet options)
        nt).2 =
      (b.run store ((m.batchOfFirst scheduler typeName options nt k).2.regenerator scheduler
        options.defaultDeck options.now) nt neverCancelled ((m.listed typeName).drop k)
        (m.batchOfFirst scheduler typeName options nt k).2).2 := by
  have hlisted := (sameNotes_batchOfFirst scheduler typeName options k m nt).listed typeName
  have hfirst : ∀ (r : Regenerator) (b : Batch),
      (b.run store r nt neverCancelled ((m.listed typeName).take k)
        (m.batchOfFirst scheduler typeName options nt k).2).2 =
      (m.batchOfFirst scheduler typeName options nt k).2 := fun r b =>
    (run_current r nt neverCancelled b (keyed_batchOfFirst scheduler typeName options k filed nt)
      (fun _ hnote => named_listed filed typed (List.mem_of_mem_take hnote))
      (current_batchOfFirst scheduler typeName options k filed typed)).1
  rw [batch_quiet scheduler typeName options k, batchOfFirst, hlisted, hfirst]
  exact ⟨_, rfl⟩

/-- **Two runs end where one ends**, but for marks. -/
theorem unmarked_batch_resumed :
    ((m.batchOfFirst scheduler typeName options nt k).2.batch scheduler typeName (quiet options)
      nt).2.unmarked = (m.batch scheduler typeName (quiet options) nt).2.unmarked := by
  -- both go on from the same store with the same notes, and differ in the mark that they give
  have hrest : ∀ (r : Regenerator) (b : Batch),
      (b.run store r nt neverCancelled ((m.listed typeName).drop k)
        (m.batchOfFirst scheduler typeName options nt k).2).2.unmarked =
      (b.run store r.unmarked nt neverCancelled ((m.listed typeName).drop k)
        (m.batchOfFirst scheduler typeName options nt k).2.unmarked).2 := by
    intro r b
    rw [run_unmarked r nt neverCancelled b (keyed_batchOfFirst scheduler typeName options k filed nt)
      fun _ hnote => named_listed filed typed (List.mem_of_mem_drop hnote)]
  obtain ⟨b, hresumed⟩ := batch_resumed scheduler typeName options k filed typed
  rw [hresumed, batch_quiet scheduler typeName options k, hrest, hrest, unmarked_regenerator]
  exact run_snd_congr _ nt (fun _ => rfl) (fun _ => rfl) _ _ _

/-- Between them, the two runs handle each note once. -/
theorem handled_batch_resumed (n : NoteId) :
    Handled nt n m ((m.batchOfFirst scheduler typeName options nt k).2.batch scheduler typeName
      (quiet options) nt).2 := by
  have keyed := keyed_batchOfFirst scheduler typeName options k filed nt
  obtain ⟨hfirst, hrest, hother⟩ := nodup_idsOf_split typeName k filed
  obtain ⟨b, hresumed⟩ := batch_resumed scheduler typeName options k filed typed
  rw [hresumed]
  -- a note in front of the cut is not touched behind it, and the other way round
  by_cases hlisted : ∃ note, .ok note ∈ (m.listed typeName).take k ∧ note.id = n
  · obtain ⟨note, hnote, rfl⟩ := hlisted
    exact (run_handled _ neverCancelled _ filed.cards hfirst note.id).trans_same
      (run_other _ nt neverCancelled b keyed (hother note hnote))
  · refine SameNote.trans_handled ?_ (run_handled _ neverCancelled b keyed hrest n)
    exact run_other _ nt neverCancelled _ filed.cards
      fun note hnote hid => hlisted ⟨note, hnote, hid⟩

/-- **A cancelled run can be resumed**, in every filed store. -/
theorem resumed_batch :
    Resumed typeName k m (m.batch scheduler typeName (quiet options) nt).2
      (m.batchOfFirst scheduler typeName options nt k).2
      ((m.batchOfFirst scheduler typeName options nt k).2.batch scheduler typeName (quiet options)
        nt).2 where
  same := unmarked_batch_resumed scheduler typeName options k filed typed
  marks := by
    have keyed := keyed_batchOfFirst scheduler typeName options k filed nt
    constructor
    · exact marksKept_of_handled filed.cards (keyed_run _ nt _ filed.cards _) fun n =>
        run_handled _ neverCancelled _ filed.cards (nodup_idsOf_listed filed typeName) n
    · exact marksKept_of_handled filed.cards (keyed_run _ nt _ keyed _)
        (handled_batch_resumed scheduler typeName options k filed typed)
  untouched _ hn := untouched_batchOfFirst filed scheduler options hn

end Runs

/-- **Cancellation is resumable**: in every store in memory, if a run is first asked to stop when it has
worked on `k` notes, then it leaves all other notes alone, and a second run with the same deck and time
ends in the store in which one uninterrupted run ends, but for the marks of written cards and of the
store. -/
theorem regenerate_resumable (acts : List Act) (scheduler : Scheduler) (typeName : String)
    (options : RegenerationOptions) (nt : NoteType) (k : Nat)
    (typed : (made acts).noteTypes.get? typeName = some nt)
    (unseen : ∀ i < k, options.cancel
      ((made acts).batchOfFirst scheduler typeName options nt i).1.progress = false)
    (seen : options.cancel
      ((made acts).batchOfFirst scheduler typeName options nt k).1.progress = true) :
    ∃ report whole report₁ part report₂ resumed,
      regenerate store scheduler typeName (quiet options) (made acts) = .ok report whole ∧
      regenerate store scheduler typeName options (made acts) = .ok report₁ part ∧
      regenerate store scheduler typeName (quiet options) part = .ok report₂ resumed ∧
      Resumed typeName k (made acts) whole part resumed := by
  have filed := filed_made acts
  have hpart : ((made acts).batch scheduler typeName options nt).2 =
      ((made acts).batchOfFirst scheduler typeName options nt k).2 :=
    run_cut _ nt _ (made acts) unseen seen
  have typed' := (sameNotes_batch (made acts) scheduler typeName options nt).typed nt typed
  have resumed := resumed_batch scheduler typeName options k filed typed
  rw [← hpart] at resumed
  exact ⟨_, _, _, _, _, _, regenerate_eq_batch typed scheduler (quiet options),
    regenerate_eq_batch typed scheduler options, regenerate_eq_batch typed' scheduler (quiet options),
    resumed⟩

/-- Someone asks a batch to stop once it has worked on some number of notes. -/
def stopAfter (k : Nat) : CancelSignal := fun progress => k ≤ progress.notes

section StopAfter

variable {m : Memory} {scheduler : Scheduler} {typeName : String} {options : RegenerationOptions}
  {nt : NoteType} {k : Nat}

theorem notes_batchOfFirst :
    (m.batchOfFirst scheduler typeName options nt k).1.progress.notes =
      min k (m.listed typeName).length := by
  have uncancelled : ∀ progress, neverCancelled progress = false := fun _ => rfl
  rw [batchOfFirst, notes_run _ nt uncancelled, List.length_take, Nat.zero_add]

theorem unseen_stopAfter {i : Nat} (hi : i < k) :
    stopAfter k (m.batchOfFirst scheduler typeName options nt i).1.progress = false := by
  rw [stopAfter, notes_batchOfFirst, decide_eq_false_iff_not]
  omega

theorem seen_stopAfter (hk : k ≤ (m.listed typeName).length) :
    stopAfter k (m.batchOfFirst scheduler typeName options nt k).1.progress = true := by
  rw [stopAfter, notes_batchOfFirst, decide_eq_true_eq]
  omega

end StopAfter

/-- A cut behind the first of four notes: in front of it a card is updated and the one of highest id
goes, and behind it another card comes, with that id. -/
theorem regenerate_resumable_faulty :
    let options : RegenerationOptions := ⟨1, ⟨0, 0⟩, stopAfter 1⟩
    (made faulty).noteTypes.get? "Basic" = some NoteType.basic ∧
      (∀ i < 1, options.cancel
        ((made faulty).batchOfFirst {} "Basic" options NoteType.basic i).1.progress = false) ∧
      options.cancel
        ((made faulty).batchOfFirst {} "Basic" options NoteType.basic 1).1.progress = true ∧
      ∃ report whole report₁ part report₂ resumed,
        regenerate store {} "Basic" (quiet options) (made faulty) = .ok report whole ∧
        regenerate store {} "Basic" options (made faulty) = .ok report₁ part ∧
        regenerate store {} "Basic" (quiet options) part = .ok report₂ resumed ∧
        Resumed "Basic" 1 (made faulty) whole part resumed := by
  intro options
  have typed : (made faulty).noteTypes.get? "Basic" = some NoteType.basic := by decide +kernel
  have hlength : 1 ≤ ((made faulty).listed "Basic").length := by decide +kernel
  exact ⟨typed, fun i hi => unseen_stopAfter hi, seen_stopAfter hlength,
    regenerate_resumable faulty {} "Basic" options _ 1 typed (fun i hi => unseen_stopAfter hi)
      (seen_stopAfter hlength)⟩

end Memory

end Flashcard
