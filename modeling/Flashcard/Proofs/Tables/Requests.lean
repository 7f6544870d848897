import Flashcard.Proofs.Memory.Marks
import Flashcard.Proofs.Tables.Updates

/-!
# Requests to tables along with requests to a collection

Each operation on tables goes along with the one in memory, on every storable collection that fits
its columns before and after. What an operation leaves on its way fits them, too: it is made of what
was there before and what is there after.

- `Tables.run_image`: batches.
- `Tables.along_addNote` and its like: each operation.
- `Tables.along_work`: all operations.
-/

namespace Flashcard

namespace Tables

open Collection Memory

variable {m : Memory}

/-! ## New collections -/

theorem fields_stock : ∀ nt ∈ NoteType.stock, (nt.fields.length : Int) ≤ lastId := by decide

theorem Fits.putNoteType (h : Fits m) {nt : NoteType} (hnt : (nt.fields.length : Int) ≤ lastId) :
    Fits (m.putNoteType nt) := by
  refine ⟨h.usn, h.cardId, h.noteId, h.states, ?_⟩
  intro nt' hnt'
  rcases SortedMap.mem_values_insert hnt' with rfl | hnt'
  · exact hnt
  · exact h.fields nt' hnt'

theorem along_seedNoteType (h : Storable m) (fits : Fits m) (nt : NoteType) :
    Along (seedNoteType Tables.store nt) (seedNoteType Memory.store nt) m := by
  unfold seedNoteType
  refine .bind_ask (fun pos => (sameLooks_image pos h fits).noteType? nt.name) ?_
  intro found _
  cases found with
  | some _ => exact .of_pure ()
  | none => exact .of_write (.of_ok rfl fun pos => writeNoteType_image pos nt)

/-- The stock note types are saved on tables as in memory. -/
theorem along_seedNoteTypes (deckName : String) {types : List NoteType}
    (stock : ∀ nt ∈ types, nt ∈ NoteType.stock) (h : Storable m) (fits : Fits m) :
    Along (types.forM (seedNoteType Tables.store)) (types.forM (seedNoteType Memory.store)) m ∧
      Storable (left (types.forM (seedNoteType Memory.store)) m) := by
  induction types generalizing m with
  | nil => exact ⟨.of_pure (), h⟩
  | cons nt rest ih =>
    have hstock : nt ∈ NoteType.stock := stock nt (List.mem_cons_self ..)
    -- the next types are saved to what this one leaves
    have hleft : Storable (left (seedNoteType Memory.store nt) m) ∧
        Fits (left (seedNoteType Memory.store nt) m) := by
      rcases left_seedNoteType nt m with heq | ⟨habsent, heq⟩
      · rw [heq]
        exact ⟨h, fits⟩
      · rw [heq]
        have hgiven : Given (.seed deckName) m := ⟨nofun, nofun, nofun⟩
        exact ⟨h.change (.stockType hstock habsent) hgiven,
          fits.putNoteType (fields_stock nt hstock)⟩
    obtain ⟨hrest, hstorable⟩ :=
      ih (fun nt hnt => stock nt (List.mem_cons_of_mem _ hnt)) hleft.1 hleft.2
    simp only [List.forM_eq_forM, List.forM_cons] at hrest hstorable ⊢
    refine ⟨(along_seedNoteType h fits nt).bind fun _ _ => hrest, ?_⟩
    rw [left_bind, outcome_seedNoteType]
    exact hstorable

theorem along_seed (h : Storable m) (fits : Fits m) (deckName : String) :
    Along (seed Tables.store deckName) (seed Memory.store deckName) m := by
  obtain ⟨hstock, hstorable⟩ := along_seedNoteTypes deckName (fun _ h => h) h fits
  exact hstock.bind fun _ _ => .of_write (along_ensureDeck hstorable.intact.sound deckName)

/-! ## Notes -/

theorem along_addNote (h : Storable m) (fits : Fits m) (scheduler : Scheduler) (new : NewNote) :
    Along (addNote Tables.store scheduler new) (addNote Memory.store scheduler new) m := by
  rw [addNote_eq, addNote_eq]
  refine .bind_question (fun pos => (sameLooks_image pos h fits).planNewNote scheduler new) ?_
  intro planned hplan
  obtain ⟨note, plan⟩ := planned
  obtain ⟨nt, deck, _, _, _, _, -, -, hdeck, ⟨⟩, ⟨⟩, ⟨⟩, ⟨⟩, hnote, rfl⟩ :=
    planNewNote_eq_ok.mp hplan
  -- the plan was made for a note without cards, and the new note has none
  have hcards : m.cardsOf note.id = [] := hnote ▸ cardsOf_nextId h.intact.sound
  have hcontains : m.decks.contains new.deck = true :=
    SortedMap.contains_iff.mpr ⟨deck, Except.ok.inj hdeck⟩
  rw [← hcards]
  exact (Along.of_write (along_applyNotePlan h hcontains rfl)).bind fun _ _ => .of_pure _

theorem along_updateNote (h : Storable m) (fits : Fits m) (scheduler : Scheduler) {change : NoteChange}
    (deck : m.decks.contains change.defaultDeck = true) :
    Along (Collection.updateNote Tables.store scheduler change)
      (Collection.updateNote Memory.store scheduler change) m := by
  rw [updateNote_eq, updateNote_eq]
  refine .bind_question (fun pos => (sameLooks_image pos h fits).planNoteChange scheduler change) ?_
  intro planned hplan
  obtain ⟨note, plan⟩ := planned
  obtain ⟨old, nt, _, _, _, _, -, -, -, ⟨⟩, ⟨⟩, hcards, ⟨⟩, hnote, rfl⟩ :=
    planNoteChange_eq_ok.mp hplan
  obtain ⟨-, rfl⟩ := cardsOfNote_eq_ok.mp hcards
  have hid : old.id = note.id := hnote ▸ rfl
  rw [hid]
  exact (Along.of_write (along_applyNotePlan h deck rfl)).bind fun _ _ => .of_pure _

/-! ## Making cards anew -/

section Batch

variable {r : Regenerator} {nt : NoteType} {entry : Except StoreError Note}
  {rest : List (Except StoreError Note)}

/-- A step of a batch on tables goes along with the one in memory. -/
theorem step_image (pos : String → Int) (h : Storable m) (fits : Fits m)
    (stored : Stored m (entry :: rest)) (deck : m.decks.contains r.defaultDeck = true)
    (decks_eq : r.decks = m.deckIds) (b : Batch) :
    b.step Tables.store r nt entry (image pos m) =
      ((b.step Memory.store r nt entry m).1, image pos (b.step Memory.store r nt entry m).2) := by
  cases entry with
  | error e => rfl
  | ok note =>
    have hplan := (sameLooks_image pos h fits).regeneratorPlan r nt note
    unfold Batch.step
    dsimp only
    rw [hplan]
    cases hmemory : r.plan Memory.store nt note m with
    | error e => rfl
    | ok plan =>
      obtain ⟨-, existing, first, hcards, ⟨⟩, rfl⟩ := Regenerator.plan_eq_ok.mp hmemory
      obtain ⟨hcheck, rfl⟩ := cardsOfNote_eq_ok.mp hcards
      dsimp only
      rw [applyPlan_whole h.intact.sound.keyed (isFit_fit r nt note m) (checkNote_eq_ok.mp hcheck),
        applyPlan_image pos h (stored note (List.mem_cons_self ..)) deck decks_eq]

/-- Collections stay storable by each step of a batch. -/
theorem Storable.step (h : Storable m) (stored : Stored m (entry :: rest))
    (deck : m.decks.contains r.defaultDeck = true) (decks_eq : r.decks = m.deckIds)
    (timely : r.now.Timely) (storable : r.scheduler.Storable) (b : Batch) :
    Storable (b.step Memory.store r nt entry m).2 := by
  have hsound := (sound_step r nt h.intact.sound stored b).1
  rcases step_cases b r nt entry m with heq | ⟨note, -, -, heq⟩
  · rw [heq]
    exact h
  · rw [heq] at hsound ⊢
    exact h.writePlan deck decks_eq timely storable (h.intact.same_notes hsound (failing_writePlan ..)
      (notes_writePlan ..) (noteTypes_writePlan ..))

/-- What fits before and after some work fits on the way, if each card on the way is from before or
stays until after. -/
theorem Fits.between {m' m'' : Memory} (h : Fits m) (h'' : Fits m'') (keyed' : m'.Keyed)
    (husn : m'.usn ≤ m''.usn) (hcards : ∀ c, m'.Holds c → m.Holds c ∨ m''.Holds c) (hnotes : m''.notes = m'.notes)
    (htypes : m''.noteTypes = m'.noteTypes) : Fits m' := by
  refine ⟨Int.lt_of_le_of_lt husn h''.usn, ?_, hnotes ▸ h''.noteId, ?_, htypes ▸ h''.fields⟩
  · rcases Store.nextId_eq m'.cards with hid | ⟨id, hmem, hid⟩
    · rw [hid]
      decide
    · rw [hid]
      obtain ⟨c, hget⟩ := SortedMap.mem_keys_iff.mp hmem
      obtain rfl := keyed' id c hget
      rcases hcards c hget with hc | hc
      · exact Int.le_trans (Store.lt_nextId_of_get? hc) h.cardId
      · exact Int.le_trans (Store.lt_nextId_of_get? hc) h''.cardId
  · intro c hc
    obtain ⟨id, hget⟩ := SortedMap.mem_values_iff.mp hc
    rcases hcards c (holds_of_get? keyed' hget) with hc | hc
    · exact h.states c (SortedMap.mem_values_iff.mpr ⟨c.id, hc⟩)
    · exact h''.states c (SortedMap.mem_values_iff.mpr ⟨c.id, hc⟩)

/-- A batch takes no update sequence number back. -/
theorem le_usn_run (r : Regenerator) (nt : NoteType) (cancel : CancelSignal)
    (entries : List (Except StoreError Note)) (b : Batch) (m : Memory) :
    m.usn ≤ (b.run Memory.store r nt cancel entries m).2.usn := by
  refine run_invariant (p := fun (m' : Memory) => m.usn ≤ m'.usn) r nt cancel b ?_ (Int.le_refl _)
  intro entry _ b m' hle
  rcases step_cases b r nt entry m' with heq | ⟨note, -, -, heq⟩
  · rw [heq]
    exact hle
  · rw [heq, usn_writePlan]
    split
    · exact hle
    · exact Int.le_trans hle (Int.le_max_left ..)

/-- What fits before and after a batch fits after its first step. -/
theorem Fits.step (fits : Fits m) (sound : Sound m) (stored : Stored m (entry :: rest))
    (distinct : (idsOf (entry :: rest)).Nodup) (cancel : CancelSignal) (b : Batch)
    (fits' : Fits ((b.step Memory.store r nt entry m).1.run Memory.store r nt cancel rest
      (b.step Memory.store r nt entry m).2).2) :
    Fits (b.step Memory.store r nt entry m).2 := by
  obtain ⟨sound', stored'⟩ := sound_step r nt sound stored b
  have sound'' := sound_run r nt cancel sound' stored' (b.step Memory.store r nt entry m).1
  refine fits.between fits' sound'.keyed (le_usn_run ..) ?_ (run_notes ..) (run_types ..)
  intro c hc
  have hmem := (mem_cardsOf sound'.keyed).mpr ⟨hc, rfl⟩
  by_cases hn : ∃ note, entry = .ok note ∧ note.id = c.noteId
  · -- the cards of the note of this step stay as they are until the end
    obtain ⟨note, rfl, hid⟩ := hn
    have hsame := run_other r nt cancel (b.step Memory.store r nt (.ok note) m).1 sound'.keyed
      (not_mem_rest distinct)
    rw [← hid, ← hsame.cards] at hmem
    exact Or.inr ((mem_cardsOf sound''.keyed).mp hmem).1
  · -- the cards of the other notes are as they were
    have hsame := step_other (n := c.noteId) r nt sound.keyed b fun note hentry heq =>
      hn ⟨note, hentry, heq⟩
    rw [hsame.cards] at hmem
    exact Or.inl ((mem_cardsOf sound.keyed).mp hmem).1

/-- **A batch on tables goes along** with the one in memory. -/
theorem run_image (pos : String → Int) (cancel : CancelSignal)
    {entries : List (Except StoreError Note)} (b : Batch) (h : Storable m) (fits : Fits m)
    (fits' : Fits (b.run Memory.store r nt cancel entries m).2) (stored : Stored m entries)
    (distinct : (idsOf entries).Nodup) (deck : m.decks.contains r.defaultDeck = true)
    (decks_eq : r.decks = m.deckIds) (timely : r.now.Timely) (storable : r.scheduler.Storable) :
    b.run Tables.store r nt cancel entries (image pos m) =
      ((b.run Memory.store r nt cancel entries m).1,
        image pos (b.run Memory.store r nt cancel entries m).2) := by
  induction entries generalizing b m with
  | nil => rfl
  | cons entry rest ih =>
    rw [run_cons] at fits' ⊢
    rw [run_cons]
    split at fits'
    · next hcancel => rw [if_pos hcancel, if_pos hcancel]
    · next hcancel =>
      -- the plans of a batch refer to the decks of its beginning, which stay
      have hdecks : (b.step Memory.store r nt entry m).2.decks = m.decks :=
        step_same r nt (·.decks) decks_writePlan entry b m
      rw [if_neg hcancel, if_neg hcancel, step_image pos h fits stored deck decks_eq b]
      refine ih _ (h.step stored deck decks_eq timely storable b)
        (fits.step h.intact.sound stored distinct cancel b fits') fits'
        (sound_step r nt h.intact.sound stored b).2 (nodup_idsOf_rest distinct) ?_ ?_
      · rw [hdecks]
        exact deck
      · rw [deckIds, hdecks]
        exact decks_eq

end Batch

/-- Making cards anew on tables goes along with it in memory. -/
theorem along_regenerate (h : Storable m) (fits : Fits m) (scheduler : Scheduler) (typeName : String)
    {options : RegenerationOptions} (deck : m.decks.contains options.defaultDeck = true)
    (timely : options.now.Timely) (storable : scheduler.Storable)
    (fits' : Fits (left (regenerate Memory.store scheduler typeName options) m)) :
    Along (regenerate Tables.store scheduler typeName options)
      (regenerate Memory.store scheduler typeName options) m := by
  cases hload : loadNoteType Memory.store typeName m with
  | error e =>
    -- both stores refuse an unknown type
    refine .of_error (regenerate_eq_error hload) fun pos => ⟨pos, regenerate_eq_error ?_⟩
    rw [(sameLooks_image pos h fits).loadNoteType, hload]
  | ok nt =>
    have hget : m.noteTypes.get? typeName = some nt :=
      Except.ok.inj (loadNoteType_eq_ok.mp hload)
    rw [left_regenerate, hget] at fits'
    refine .of_ok (regenerate_eq_ok hload rfl rfl rfl) fun pos => ⟨pos, ?_⟩
    have hlooks := sameLooks_image pos h fits
    have hrun := run_image pos (r := m.regenerator scheduler options.defaultDeck options.now)
      options.cancel ⟨{ noteType := typeName, notesTotal := (m.listed typeName).length }, {}⟩ h fits
      fits' (stored_listed h.intact.sound.filed typeName)
      (nodup_idsOf_listed h.intact.sound.filed typeName) deck rfl timely storable
    rw [regenerate_eq_ok ((hlooks.loadNoteType typeName).trans hload)
      (hlooks.notesOfType typeName) hlooks.deckNames hlooks.nextUsn]
    exact congrArg (fun p : Batch × Tables => EStateM.Result.ok p.1.report p.2) hrun

/-! ## Edited note types -/

/-- An edited note type fits where it does in the end. -/
theorem Fits.writeNoteType {m' : Memory} {nt : NoteType} {notes : List Note} (h : Fits m)
    (h' : Fits m') (keyed : m.Keyed) (husn : (m.writeNoteType nt notes).usn ≤ m'.usn)
    (hnotes : m'.notes = (m.writeNoteType nt notes).notes)
    (htypes : m'.noteTypes = (m.writeNoteType nt notes).noteTypes) :
    Fits (m.writeNoteType nt notes) := by
  have hcards : (m.writeNoteType nt notes).cards = m.cards := cards_writeNoteType ..
  refine h.between h' (fun id c hget => keyed id c (hcards ▸ hget)) husn (fun c hc => Or.inl ?_) hnotes
    htypes
  rw [Holds, hcards] at hc
  exact hc

/-- Making cards anew keeps notes and note types. -/
theorem same_regenerate {α : Type} (f : Memory → α) (h : ∀ m plan, f (m.writePlan plan) = f m)
    (scheduler : Scheduler) (typeName : String) (options : RegenerationOptions) (m : Memory) :
    f (left (regenerate Memory.store scheduler typeName options) m) = f m := by
  rw [left_regenerate]
  cases m.noteTypes.get? typeName with
  | none => rfl
  | some nt => exact run_same _ nt options.cancel f h _ _ m

theorem along_editNoteType (h : Storable m) (fits : Fits m) (scheduler : Scheduler) (typeName : String)
    (edit : NoteTypeEdit) {options : RegenerationOptions}
    (given : Given (.editNoteType scheduler typeName edit options) m)
    (fits' : Fits (left (editNoteType Memory.store scheduler typeName edit options) m)) :
    Along (editNoteType Tables.store scheduler typeName edit options)
      (editNoteType Memory.store scheduler typeName edit options) m := by
  rw [editNoteType_eq, editNoteType_eq]
  refine .bind_question (fun pos => (sameLooks_image pos h fits).planEdit typeName edit) ?_
  intro planned hplan
  obtain ⟨edited, notes⟩ := planned
  obtain ⟨nt, _, _, hnt, hedit, ⟨⟩, ⟨⟩, rfl⟩ :=
    (planEdit_eq_ok ⟨m.listed typeName, rfl⟩ ⟨m.usn + 1, rfl⟩).mp hplan
  have hcreated := created_editedNotes h.intact.sound edit typeName (m.usn + 1)
  have hsave := saveNoteTypeWithNotes_whole h.intact.calm edited hcreated.stored
  have hedited : Change (.editNoteType scheduler typeName edit options) m
      (m.writeNoteType edited (editedNotes edit (m.listed typeName) (m.usn + 1))) :=
    .edit (Except.ok.inj hnt) hedit
  -- the assumption on what fits is about the end, after the cards were made anew
  have hleft : left (editNoteType Memory.store scheduler typeName edit options) m =
      left (if edit.affectsCards then regenerate Memory.store scheduler typeName options
        else pure { noteType := typeName })
        (m.writeNoteType edited (editedNotes edit (m.listed typeName) (m.usn + 1))) := by
    rw [editNoteType_eq, left_bind, left_question, outcome_question, hplan]
    show stateOf ((write (Memory.store.saveNoteTypeWithNotes edited
      (editedNotes edit (m.listed typeName) (m.usn + 1))) >>= fun _ => _) m) = _
    rw [bind_eq_of_ok (write_eq_ok hsave)]
    rfl
  rw [hleft] at fits'
  refine .bind_write hsave (fun pos => saveNoteTypeWithNotes_image pos edited hcreated) ?_
  split at fits'
  · next haffects =>
    rw [if_pos haffects, if_pos haffects]
    have hgiven := given.change hedited
    refine along_regenerate (h.change hedited given) ?_ scheduler typeName (hgiven.deck _ rfl)
      (given.timely _ (List.mem_singleton_self _)) (given.storable _ rfl) fits'
    have keyed' : (m.writeNoteType edited (editedNotes edit (m.listed typeName) (m.usn + 1))).Keyed :=
      (h.intact.change hedited).sound.keyed
    exact fits.writeNoteType fits' h.intact.sound.keyed
      (marked_regenerate keyed' (Int.le_refl _) scheduler typeName options).usn_le
      (same_regenerate (·.notes) notes_writePlan scheduler typeName options _)
      (same_regenerate (·.noteTypes) noteTypes_writePlan scheduler typeName options _)
  · next haffects =>
    rw [if_neg haffects, if_neg haffects]
    exact .of_pure _

/-! ## Studying -/

/-- A card is changed on tables as in memory, as long as it is the same one in the same deck. -/
theorem updateCard_along (h : Storable m) {c : Card} (found : m.Holds c) (c' : Card)
    (hid : c'.id = c.id) (hn : c'.noteId = c.noteId) (hidentity : c'.identity = c.identity)
    (hdeck : c'.deckId = c.deckId) :
    Memory.store.updateCard c' m = .ok () (m.putCard c') ∧
      ∀ pos, Tables.store.updateCard c' (image pos m) = .ok () (image pos (m.putCard c')) := by
  have hget : m.cards.get? c'.id = some c := by
    rw [hid]
    exact found
  refine ⟨?_, fun pos => updateCard_image pos hget hn.symm hidentity.symm ?_⟩
  · rw [updateCard_eq, checkCard, if_pos (SortedMap.contains_iff.mpr ⟨c, hget⟩)]
    rfl
  · rw [hdeck]
    exact h.housed c found

/-- What an answer leaves of a collection, if the scheduler has a state for it. -/
theorem left_answerCard {scheduler : Scheduler} {answer : Answer} {c : Card} {next : SchedulingState}
    {review : Review} (found : m.cards.get? answer.cardId = some c) (hid : c.id = answer.cardId)
    (answered : scheduler.answer? c.scheduling answer.rating answer.now = some (next, review)) :
    left (answerCard Memory.store scheduler answer) m =
      m.writeAnswer { c with scheduling := next, usn := m.usn + 1 } answer.cardId
        { review with timeTakenMs := answer.timeTakenMs } := by
  have hload : loadCard Memory.store answer.cardId m = .ok c :=
    loadCard_eq_ok.mpr (congrArg Except.ok found)
  have hupdate : Memory.store.updateCard { c with scheduling := next, usn := m.usn + 1 } m =
      .ok () (m.putCard { c with scheduling := next, usn := m.usn + 1 }) := by
    rw [updateCard_eq, checkCard, if_pos (SortedMap.contains_iff.mpr ⟨c, hid.symm ▸ found⟩)]
    rfl
  rw [answerCard_eq, left_bind, left_question, outcome_question, hload]
  dsimp only
  rw [answered]
  dsimp only
  rw [left_bind, left_ask, outcome_ask, asked_nextUsn]
  show stateOf ((write (Memory.store.updateCard { c with scheduling := next, usn := m.usn + 1 }) >>=
    fun _ => _) m) = _
  rw [bind_eq_of_ok (write_eq_ok hupdate)]
  rfl

theorem along_answerCard (h : Storable m) (fits : Fits m) {scheduler : Scheduler} (answer : Answer)
    (storable : scheduler.Storable)
    (fits' : Fits (left (answerCard Memory.store scheduler answer) m)) :
    Along (answerCard Tables.store scheduler answer) (answerCard Memory.store scheduler answer)
      m := by
  rw [answerCard_eq, answerCard_eq]
  refine .bind_question (fun pos => (sameLooks_image pos h fits).loadCard answer.cardId) ?_
  intro c hload
  have hget := Except.ok.inj (loadCard_eq_ok.mp hload)
  have hholds := holds_of_get? h.intact.sound.keyed hget
  cases answered : scheduler.answer? c.scheduling answer.rating answer.now with
  | none => exact .of_throw _
  | some result =>
    obtain ⟨next, review⟩ := result
    dsimp only
    -- the state after the answer is kept, so it is finite, and the record is one in numbers
    have hid : c.id = answer.cardId := h.intact.sound.keyed _ c hget
    rw [left_answerCard hget hid answered] at fits'
    have hnext : ReadsBack next :=
      fits'.states { c with scheduling := next, usn := m.usn + 1 }
        (SortedMap.mem_values_iff.mpr ⟨c.id, SortedMap.get?_insert_self ..⟩)
    have hbefore : ReadsBack c.scheduling := fits.states c (SortedMap.mem_values_iff.mpr ⟨_, hget⟩)
    have numeric : review.Numeric := storable.numeric answered hbefore.finite hnext.finite
    refine .bind_ask (fun pos => (sameLooks_image pos h fits).nextUsn) ?_
    intro usn husn
    obtain ⟨hmemory, htables⟩ :=
      updateCard_along h hholds { c with scheduling := next, usn } rfl rfl rfl rfl
    refine .bind_write hmemory (fun pos => ⟨pos, htables pos⟩) ?_
    refine .bind_write rfl (fun pos => ⟨pos, insertReview_image pos (numeric.timed _) ?_⟩) ?_
    · exact SortedMap.contains_insert.mpr (Or.inr (SortedMap.contains_iff.mpr ⟨c, hget⟩))
    exact .bind_write rfl (fun pos => ⟨pos, raiseUsn_image pos usn⟩) (.of_pure _)

theorem along_updateCardFlags (h : Storable m) (fits : Fits m) (id : CardId)
    (update : CardFlagsUpdate) :
    Along (updateCardFlags Tables.store id update) (updateCardFlags Memory.store id update) m := by
  rw [updateCardFlags_eq, updateCardFlags_eq]
  refine (Along.of_demand (checkFlag update)).bind ?_
  intro _ _
  rw [left_demand]
  refine .bind_question (fun pos => (sameLooks_image pos h fits).loadCard id) ?_
  intro c hload
  have hholds := holds_of_get? h.intact.sound.keyed (Except.ok.inj (loadCard_eq_ok.mp hload))
  refine .bind_ask (fun pos => (sameLooks_image pos h fits).nextUsn) ?_
  intro usn husn
  obtain ⟨hmemory, htables⟩ := updateCard_along h hholds
    { c with
      flag := update.flag.getD c.flag
      marked := update.marked.getD c.marked
      suspended := update.suspended.getD c.suspended
      usn } rfl rfl rfl rfl
  refine .bind_write hmemory (fun pos => ⟨pos, htables pos⟩) ?_
  exact .bind_write rfl (fun pos => ⟨pos, raiseUsn_image pos usn⟩) (.of_pure _)

/-! ## Deletions -/

theorem deletion_image (pos : String → Int) (report : DeletionReport) (id : CardId) (m : Memory) :
    Collection.deleteCard Tables.store report id (image pos m) =
      ((Collection.deleteCard Memory.store report id m).1,
        image pos (Collection.deleteCard Memory.store report id m).2) := by
  have htables : Tables.store.deleteCard id (image pos m) = _ := deleteCard_image pos id
  unfold Collection.deleteCard
  rw [htables, deleteCard_eq, checkCard]
  cases m.cards.contains id <;> rfl

theorem deletions_image (pos : String → Int) (ids : List CardId) (report : DeletionReport)
    (m : Memory) :
    ids.foldl (fun (report, t) id => Collection.deleteCard Tables.store report id t)
        (report, image pos m) =
      let (report', m') :=
        ids.foldl (fun (report, m) id => Collection.deleteCard Memory.store report id m) (report, m)
      (report', image pos m') := by
  induction ids generalizing report m with
  | nil => rfl
  | cons id rest ih =>
    rw [List.foldl_cons, List.foldl_cons]
    dsimp only
    rw [deletion_image]
    exact ih _ _

theorem along_deleteCards (ids : List CardId) :
    Along (deleteCards Tables.store ids) (deleteCards Memory.store ids) m := by
  refine .of_ok rfl fun pos => ⟨pos, ?_⟩
  unfold deleteCards
  rw [deletions_image]

/-! ## All operations -/

/-- **Each operation goes along**, in what it answers and in what it leaves. -/
theorem along_work {op : Operation} (h : Storable m) (given : Given op m) (fits : Fits m)
    (fits' : Fits (op.after Memory.store m)) :
    Along (op.work Tables.store) (op.work Memory.store) m := by
  have hlooks := fun pos => sameLooks_image pos h fits
  cases op with
  | seed deckName => exact (along_seed h fits deckName).map _
  | ensureDeck name => exact (Along.of_write (along_ensureDeck h.intact.sound name)).map _
  | addNote scheduler new => exact (along_addNote h fits scheduler new).map _
  | updateNote scheduler change =>
    exact (along_updateNote h fits scheduler (given.deck _ rfl)).map _
  | editNoteType scheduler typeName edit options =>
    rw [Operation.after, Operation.work, left_map] at fits'
    exact (along_editNoteType h fits scheduler typeName edit given fits').map _
  | regenerate scheduler typeName options =>
    rw [after_regenerate] at fits'
    exact (along_regenerate h fits scheduler typeName (given.deck _ rfl)
      (given.timely _ (List.mem_singleton_self _)) (given.storable _ rfl) fits').map _
  | answerCard scheduler answer =>
    rw [Operation.after, Operation.work, left_map] at fits'
    exact (along_answerCard h fits answer (given.storable _ rfl) fits').map _
  | updateCardFlags id update => exact (along_updateCardFlags h fits id update).map _
  | deleteCards ids => exact (along_deleteCards ids).map _
  | findEmptyCards typeName =>
    exact (Along.of_question fun pos => (hlooks pos).findEmptyCards typeName).map _
  | checkDuplicate typeName query =>
    exact (Along.of_question fun pos => (hlooks pos).checkDuplicate typeName query).map _
  | dueCards deck now limit =>
    have hnow := (given.timely now (List.mem_singleton_self _)).counted
    exact (Along.of_question fun pos => (hlooks pos).dueCards_eq deck hnow limit).map _
  | deckStats deck now =>
    exact (Along.of_question fun pos => (hlooks pos).deckStats deck now).map _

end Tables

end Flashcard
