import Flashcard.Proofs.Drafts
import Flashcard.Proofs.Memory.Batch
import Flashcard.Proofs.Memory.Filed

/-!
# The sweep for empty cards

A sweep goes over note types, the notes of each and the cards of each note, and skips what it cannot
read. What it says of a card depends on the card, its note and its note type alone, so that deleting the
cards it reports changes nothing that it says of others.

- `Memory.sweptTypes?`: the note types of a sweep.
- `Memory.Empties`: a card that a sweep reports at a note.
- `Memory.Drafted`: each card of a note has the identity of a draft. `Memory.IsClozeCard`.
- `Memory.CleanSweep`: what a sweep has to be.

## Main statements

- `Memory.findEmptyCards_eq_ok`: when a sweep succeeds, and what it reports.
- `Memory.deleteCards_eq_ok`: the deletion of different cards that are there.
- `Memory.cleanSweep_made`: every sweep of every store in memory.
-/

namespace Flashcard

namespace Memory

open Collection

variable {m m' : Memory} {nt nt' : NoteType} {note note' : Note} {e e' : EmptyCard}
  {typeName : Option String} {types : List NoteType}

/-! ## What is reported -/

/-- The note types of a sweep, if it has a type to begin with. -/
def sweptTypes? (m : Memory) : Option String → Option (List NoteType)
  | none => some m.noteTypes.values
  | some name => (m.noteTypes.get? name).map ([·])

/-- What is reported at a note type, note by note. -/
def reported (m : Memory) (nt : NoteType) : List EmptyCard :=
  (m.listed nt.name).flatMap (emptyCardsOf store m nt)

/-- **A sweep succeeds** if its type is there, and reports what there is at its types. -/
theorem findEmptyCards_eq_ok {found : List EmptyCard} :
    findEmptyCards store typeName m = .ok found ↔
      ∃ types, m.sweptTypes? typeName = some types ∧ found = types.flatMap m.reported := by
  have hreported : ∀ types : List NoteType, (do
      let found ← types.mapM fun nt => do
        let entries ← asked (store.notesOfType nt.name m)
        pure (entries.flatMap (emptyCardsOf store m nt))
      pure found.flatten : Except CollectionError _) = .ok (types.flatMap m.reported) := by
    intro types
    have hfound : (types.mapM fun nt => do
        let entries ← asked (store.notesOfType nt.name m)
        pure (entries.flatMap (emptyCardsOf store m nt)) : Except CollectionError _) =
        .ok (types.map m.reported) :=
      mapM_eq_ok fun _ _ => rfl
    rw [hfound, List.flatMap_def]
    rfl
  cases typeName with
  | none =>
    have hswept : findEmptyCards store none m = .ok (m.noteTypes.values.flatMap m.reported) := hreported _
    rw [hswept]
    simp [sweptTypes?, eq_comm]
  | some name =>
    have hswept : findEmptyCards store (some name) m =
        loadNoteType store name m >>= fun nt => .ok ([nt].flatMap m.reported) :=
      bind_congr fun nt => hreported [nt]
    have hload : ∀ nt, loadNoteType store name m = .ok nt ↔ m.noteTypes.get? name = some nt :=
      fun nt => loadNoteType_eq_ok.trans ⟨Except.ok.inj, congrArg Except.ok⟩
    rw [hswept, bind_eq_ok]
    simp only [sweptTypes?, hload, Option.map_eq_some_iff, Except.ok.injEq]
    constructor
    · rintro ⟨nt, hget, rfl⟩
      exact ⟨[nt], ⟨nt, hget, rfl⟩, rfl⟩
    · rintro ⟨_, ⟨nt, hget, rfl⟩, rfl⟩
      exact ⟨nt, hget, rfl⟩

/-- A card that is reported at a note, and why. -/
structure Empties (m : Memory) (nt : NoteType) (note : Note) (e : EmptyCard) : Prop where
  listed : .ok note ∈ m.listed nt.name
  readable : note.id ∉ m.failing
  mem : e.card ∈ m.cardsOf note.id
  reason : emptyReason? nt (clozeOrdinals note.fields) e.card = some e.reason

theorem emptyCardsOf_eq (h : note.id ∉ m.failing) :
    emptyCardsOf store m nt (.ok note) = (m.cardsOf note.id).filterMap fun c =>
      (emptyReason? nt (clozeOrdinals note.fields) c).map (⟨c, ·⟩) := by
  have hcards : store.cardsOfNote note.id m = .ok (m.cardsOf note.id) :=
    cardsOfNote_eq (checkNote_eq_ok.mpr h)
  rw [emptyCardsOf, hcards]

theorem emptyCardsOf_failing (h : note.id ∈ m.failing) : emptyCardsOf store m nt (.ok note) = [] := by
  rw [emptyCardsOf, cardsOfNote_failing h]

theorem mem_emptyCardsOf {entry : Except StoreError Note} (hentry : entry ∈ m.listed nt.name) :
    e ∈ emptyCardsOf store m nt entry ↔ ∃ note, entry = .ok note ∧ Empties m nt note e := by
  cases entry with
  | error _ => exact ⟨fun h => absurd h List.not_mem_nil, fun ⟨_, h, _⟩ => nomatch h⟩
  | ok note =>
    by_cases hreadable : note.id ∈ m.failing
    · rw [emptyCardsOf_failing hreadable]
      refine ⟨fun h => absurd h List.not_mem_nil, ?_⟩
      rintro ⟨_, ⟨⟩, empties⟩
      exact absurd hreadable empties.readable
    · rw [emptyCardsOf_eq hreadable, List.mem_filterMap]
      constructor
      · rintro ⟨c, hc, hreason⟩
        obtain ⟨reason, hempty, rfl⟩ := Option.map_eq_some_iff.mp hreason
        exact ⟨note, rfl, ⟨hentry, hreadable, hc, hempty⟩⟩
      · rintro ⟨_, ⟨⟩, empties⟩
        exact ⟨e.card, empties.mem, Option.map_eq_some_iff.mpr ⟨e.reason, empties.reason, rfl⟩⟩

theorem mem_reported : e ∈ m.reported nt ↔ ∃ note, Empties m nt note e := by
  rw [reported, List.mem_flatMap]
  constructor
  · rintro ⟨entry, hentry, he⟩
    obtain ⟨note, -, empties⟩ := (mem_emptyCardsOf hentry).mp he
    exact ⟨note, empties⟩
  · rintro ⟨note, empties⟩
    exact ⟨.ok note, empties.listed, (mem_emptyCardsOf empties.listed).mpr ⟨note, rfl, empties⟩⟩

/-! ## Different cards -/

/-- A card is reported at its own note. -/
theorem Empties.eq_of_id (filed : Filed m) (h : Empties m nt note e) (h' : Empties m nt' note' e')
    (hid : e.card.id = e'.card.id) : note = note' := by
  obtain ⟨hholds, hnote⟩ := (mem_cardsOf filed.cards).mp h.mem
  obtain ⟨hholds', hnote'⟩ := (mem_cardsOf filed.cards).mp h'.mem
  have hids : note.id = note'.id := by
    rw [← hnote, ← hnote', hholds.eq_of_id hholds' hid]
  have hstored := ((mem_listed_iff filed).mp h.listed).2
  rw [hids, ((mem_listed_iff filed).mp h'.listed).2] at hstored
  cases hstored
  rfl

/-- The types of a sweep are kept under their names, and different. -/
theorem sweptTypes?_eq_some (filed : Filed m) (h : m.sweptTypes? typeName = some types) :
    (∀ nt ∈ types, m.noteTypes.get? nt.name = some nt) ∧ types.Pairwise (·.name ≠ ·.name) := by
  cases typeName with
  | none =>
    cases h
    refine ⟨fun nt hnt => ?_, List.pairwise_map.mp (SortedMap.nodup_map_values filed.types)⟩
    obtain ⟨name, hget⟩ := SortedMap.mem_values_iff.mp hnt
    rwa [filed.types name nt hget]
  | some name =>
    obtain ⟨nt, hget, rfl⟩ := Option.map_eq_some_iff.mp h
    refine ⟨fun nt' hnt' => ?_, List.pairwise_singleton ..⟩
    rw [List.mem_singleton.mp hnt', filed.types name nt hget]
    exact hget

/-- At one note the reported cards are listed by id. -/
theorem emptyCardsOf_sorted (filed : Filed m) (entry : Except StoreError Note) :
    (emptyCardsOf store m nt entry).Pairwise (·.card.id < ·.card.id) := by
  cases entry with
  | error _ => exact .nil
  | ok note =>
    by_cases hreadable : note.id ∈ m.failing
    · rw [emptyCardsOf_failing hreadable]
      exact .nil
    · rw [emptyCardsOf_eq hreadable]
      refine List.pairwise_filterMap.mpr ((cardsOf_sorted filed.cards _).imp ?_)
      intro c c' hlt e he e' he'
      obtain ⟨_, -, rfl⟩ := Option.map_eq_some_iff.mp he
      obtain ⟨_, -, rfl⟩ := Option.map_eq_some_iff.mp he'
      exact hlt

/-- **No card is reported twice.** -/
theorem nodup_ids_reported (filed : Filed m) (distinct : types.Pairwise (·.name ≠ ·.name)) :
    ((types.flatMap m.reported).map (·.card.id)).Nodup := by
  -- cards of one id would be reported at one note, which is listed once at one type
  refine List.pairwise_map.mpr (List.pairwise_flatMap.mpr ⟨fun nt _ => ?_, ?_⟩)
  · have hlisted := List.pairwise_filterMap.mp (List.pairwise_map.mp (nodup_idsOf_listed filed nt.name))
    refine List.pairwise_flatMap.mpr ⟨fun entry _ => ?_, hlisted.imp_of_mem ?_⟩
    · exact (emptyCardsOf_sorted filed entry).imp Int.ne_of_lt
    · intro entry entry' hentry hentry' hne e he e' he' hid
      obtain ⟨note, rfl, empties⟩ := (mem_emptyCardsOf hentry).mp he
      obtain ⟨note', rfl, empties'⟩ := (mem_emptyCardsOf hentry').mp he'
      exact hne note rfl note' rfl (congrArg Note.id (empties.eq_of_id filed empties' hid))
  · refine distinct.imp fun {nt nt'} hne e he e' he' hid => ?_
    obtain ⟨note, empties⟩ := mem_reported.mp he
    obtain ⟨note', empties'⟩ := mem_reported.mp he'
    have hsame := empties.eq_of_id filed empties' hid
    have hname := ((mem_listed_iff filed).mp empties.listed).1
    have hname' := ((mem_listed_iff filed).mp empties'.listed).1
    exact hne (by rw [← hname, ← hname', hsame])

/-! ## Deletion -/

/-- **Different cards that are there** are all deleted. -/
theorem deleteCards_eq_ok {ids : List CardId} (distinct : ids.Nodup)
    (held : ∀ id ∈ ids, m.cards.contains id = true) :
    deleteCards store ids m = .ok { deleted := ids.length } (ids.foldl dropCard m) := by
  have hall : ∀ report : DeletionReport,
      ids.foldl (fun (report, m) id => Collection.deleteCard store report id m) (report, m) =
        ({ report with deleted := report.deleted + ids.length }, ids.foldl dropCard m) := by
    induction ids generalizing m with
    | nil => exact fun _ => rfl
    | cons id ids ih =>
      intro report
      obtain ⟨hid, hrest⟩ := List.nodup_cons.mp distinct
      have hdelete : store.deleteCard id m = .ok () (m.dropCard id) := by
        rw [deleteCard_eq, checkCard, if_pos (held id List.mem_cons_self)]
        rfl
      have hleft : ∀ id' ∈ ids, (m.dropCard id).cards.contains id' = true := fun id' hid' =>
        SortedMap.contains_erase.mpr
          ⟨fun heq => hid (heq ▸ hid'), held id' (List.mem_cons_of_mem _ hid')⟩
      have hstep : Collection.deleteCard store report id m =
          ({ report with deleted := report.deleted + 1 }, m.dropCard id) := by
        unfold Collection.deleteCard
        rw [hdelete]
      show ids.foldl _ (Collection.deleteCard store report id m) = _
      rw [hstep]
      refine (ih hrest hleft _).trans ?_
      rw [List.length_cons, Nat.add_right_comm, ← Nat.add_assoc]
      rfl
  rw [deleteCards, hall, Nat.zero_add]

/-- What is reported after a deletion was reported before. -/
theorem Empties.of_dropCards (filed : Filed m) {ids : List CardId}
    (h : Empties (ids.foldl dropCard m) nt note e) : Empties m nt note e ∧ e.card.id ∉ ids := by
  have filed' : Filed (ids.foldl dropCard m) := Filed.foldl (fun id h => h.dropCard id) ids filed
  obtain ⟨hlisted, hreadable, hmem, hreason⟩ := h
  obtain ⟨hholds, hnote⟩ := (mem_cardsOf filed'.cards).mp hmem
  rw [foldl_dropCard] at hlisted hreadable hholds
  have hget : (if e.card.id ∈ ids then none else m.cards.get? e.card.id) = some e.card :=
    (get?_foldl_erase ids m.cards e.card.id).symm.trans hholds
  by_cases hid : e.card.id ∈ ids
  · rw [if_pos hid] at hget
    cases hget
  · rw [if_neg hid] at hget
    exact ⟨⟨hlisted, hreadable, (mem_cardsOf filed.cards).mpr ⟨hget, hnote⟩, hreason⟩, hid⟩

/-! ## Cloze cards -/

/-- Whether a card is one of a cloze template, by the type of its note. -/
def IsClozeCard (m : Memory) (c : Card) : Prop :=
  ∃ note nt t, m.notes.get? c.noteId = some (.readable note) ∧
    m.noteTypes.get? note.typeName = some nt ∧ t ∈ nt.templates ∧ t.name = c.templateName ∧
    t.isCloze = true

/-- Each card of a note has the identity of one of its drafts. -/
def Drafted (m : Memory) (note : Note) : Prop :=
  ∀ drafts, compile m.noteTypes.get? note.typeName note.fields = .ok drafts →
    ∀ c ∈ m.cardsOf note.id, c.identity ∈ drafts.map CardDraft.identity

/-- A card of a cloze template is not empty while there is a draft of its identity. -/
theorem emptyReason?_of_draft {t : CardTemplate} {fields : FieldMap} {c : Card}
    (distinct : (nt.templates.map (·.name)).Nodup) (ht : t ∈ nt.templates)
    (hname : t.name = c.templateName) (hcloze : t.isCloze = true)
    (hdraft : c.identity ∈ (nt.drafts fields).map CardDraft.identity) :
    emptyReason? nt (clozeOrdinals fields) c = none := by
  have hfind : nt.template? c.templateName = some t :=
    (find?_key_eq_some_iff distinct).mpr ⟨ht, hname⟩
  obtain ⟨d, hd, hidentity⟩ := List.mem_map.mp hdraft
  obtain ⟨t', ht', hd⟩ := List.mem_flatMap.mp hd
  -- by the names, the draft is one of the same template
  have hname' : t'.name = t.name := by
    rw [← t'.templateName_of_mem_drafts fields hd, hname]
    exact congrArg CardIdentity.templateName hidentity
  obtain rfl := List.inj_on_of_nodup_map distinct ht' ht hname'
  rw [CardTemplate.drafts, if_pos hcloze] at hd
  obtain ⟨ordinal, hordinal, rfl⟩ := List.mem_map.mp hd
  obtain rfl : ordinal = c.ordinal := congrArg CardIdentity.ordinal hidentity
  rw [emptyReason?, hfind]
  exact (if_pos hcloze).trans (if_pos (List.contains_iff_mem.mpr hordinal))

theorem Empties.not_isClozeCard (filed : Filed m) (h : Empties m nt note e)
    (typed : m.noteTypes.get? nt.name = some nt) (distinct : (nt.templates.map (·.name)).Nodup)
    (drafted : Drafted m note) : ¬ IsClozeCard m e.card := by
  rintro ⟨note', nt', t, hnote', typed', ht, hname, hcloze⟩
  obtain ⟨htype, hnote⟩ := (mem_listed_iff filed).mp h.listed
  rw [((mem_cardsOf filed.cards).mp h.mem).2, hnote] at hnote'
  cases hnote'
  rw [htype, typed] at typed'
  cases typed'
  have hcompile : compile m.noteTypes.get? note.typeName note.fields = .ok (nt.drafts note.fields) := by
    rw [compile, htype, typed]
  have hnone := emptyReason?_of_draft distinct ht hname hcloze (drafted _ hcompile _ h.mem)
  rw [h.reason] at hnone
  cases hnone

/-! ## Every sweep -/

/-- What a sweep has to be. -/
structure CleanSweep (typeName : Option String) (m : Memory) (found : List EmptyCard) : Prop where
  distinct : (found.map (·.card.id)).Nodup
  /-- What is found can be deleted, and then nothing is found any more. All other cards are left, with
  their reviews. -/
  deletion : ∃ m', deleteCards store (found.map (·.card.id)) m = .ok { deleted := found.length } m' ∧
    findEmptyCards store typeName m' = .ok [] ∧
    ∀ id ∉ found.map (·.card.id),
      store.card? id m' = store.card? id m ∧ store.reviews id m' = store.reviews id m
  /-- Cloze cards that match their notes are not found. -/
  cloze : (∀ nt ∈ m.noteTypes.values, (nt.templates.map (·.name)).Nodup) →
    (∀ id note, m.notes.get? id = some (.readable note) → Drafted m note) →
    ∀ e ∈ found, ¬ IsClozeCard m e.card

theorem Filed.cleanSweep (filed : Filed m) {found : List EmptyCard}
    (swept : findEmptyCards store typeName m = .ok found) : CleanSweep typeName m found := by
  obtain ⟨types, htypes, rfl⟩ := findEmptyCards_eq_ok.mp swept
  obtain ⟨typed, distinct⟩ := sweptTypes?_eq_some filed htypes
  have hnodup := nodup_ids_reported filed distinct
  have hempties : ∀ {e}, e ∈ types.flatMap m.reported → ∃ nt ∈ types, ∃ note, Empties m nt note e := by
    intro e he
    obtain ⟨nt, hnt, he⟩ := List.mem_flatMap.mp he
    exact ⟨nt, hnt, mem_reported.mp he⟩
  refine ⟨hnodup, ⟨((types.flatMap m.reported).map (·.card.id)).foldl Memory.dropCard m, ?_, ?_, ?_⟩,
    ?_⟩
  · rw [← List.length_map (f := (·.card.id))]
    refine deleteCards_eq_ok hnodup fun id hid => ?_
    obtain ⟨e, he, rfl⟩ := List.mem_map.mp hid
    obtain ⟨_, -, _, empties⟩ := hempties he
    exact SortedMap.contains_iff.mpr ⟨_, ((mem_cardsOf filed.cards).mp empties.mem).1⟩
  · refine findEmptyCards_eq_ok.mpr ⟨types, ?_, ?_⟩
    · rw [← htypes, foldl_dropCard]
      rfl
    · refine (List.eq_nil_iff_forall_not_mem.mpr fun e he => ?_).symm
      obtain ⟨nt, hnt, he⟩ := List.mem_flatMap.mp he
      obtain ⟨note, empties⟩ := mem_reported.mp he
      obtain ⟨empties, hleft⟩ := empties.of_dropCards filed
      have hfound := List.mem_flatMap.mpr ⟨nt, hnt, mem_reported.mpr ⟨note, empties⟩⟩
      exact hleft (List.mem_map.mpr ⟨e, hfound, rfl⟩)
  · intro id hid
    rw [foldl_dropCard]
    refine ⟨congrArg Except.ok ?_, congrArg Except.ok (reviewsOf_eq_of_filter rfl hid)⟩
    exact (get?_foldl_erase _ _ _).trans (if_neg hid)
  · intro hdistinct hdrafted e he
    obtain ⟨nt, hnt, note, empties⟩ := hempties he
    refine empties.not_isClozeCard filed (typed nt hnt) ?_ ?_
    · exact hdistinct nt (SortedMap.mem_values_iff.mpr ⟨_, typed nt hnt⟩)
    · exact hdrafted _ note ((mem_listed_iff filed).mp empties.listed).2

/-- **Every sweep is clean**, in every store in memory and for every type: it reports no card twice, what
it reports can be deleted and is all there is to delete, and nothing else is touched. -/
theorem cleanSweep_made (acts : List Act) (typeName : Option String) {found : List EmptyCard}
    (swept : findEmptyCards store typeName (made acts) = .ok found) :
    CleanSweep typeName (made acts) found := (filed_made acts).cleanSweep swept

/-- A card of a note with one text on both sides. -/
def sidedCard (id : CardId) (noteId : NoteId) (templateName : String) (ordinal : UInt32)
    (text : String) : Card where
  id
  noteId
  deckId := 1
  templateName
  ordinal
  front := text
  back := text
  scheduling := Sm2.newCard {} ⟨0, 0⟩
  usn := 0

/-- A note with values and nothing else. -/
def filledNote (id : NoteId) (typeName : String) (fields : List (String × String)) : Note where
  id
  typeName
  fields := .ofList fields
  tags := []
  createdAt := ⟨0, 0⟩
  modifiedAt := ⟨0, 0⟩
  usn := 0

/-- A collection with blank cards, one of them of a note that fails, one of a note that cannot be read
and one of a cloze note, and with a cloze card for a number that is not in the note. -/
def neglected : List Act :=
  [.update (.saveNoteType .basic), .update (.saveNoteType .cloze)] ++
    [filledNote 1 "Basic" [("Front", ""), ("Back", "")],
      filledNote 2 "Cloze" [("Text", "\x7b\x7bc1::Paris\x7d\x7d")],
      filledNote 3 "Basic" [("Front", ""), ("Back", "")]].map
        (fun note => .update (.createNote note)) ++
    [sidedCard 1 1 "Card 1" 0 " ", sidedCard 2 2 "Cloze" 1 "", sidedCard 3 2 "Cloze" 2 "Paris",
      sidedCard 4 3 "Card 1" 0 "", sidedCard 5 4 "Card 1" 0 ""].map
        (fun c => .update (.createCard c)) ++
    [.failNote 3, .spoilNote 4 "Basic" "damaged"]

/-- With that card there it is found, and without it only the blank card of the first note. -/
theorem cleanSweep_made_neglected :
    (∃ found, findEmptyCards store none (made neglected) = .ok found ∧
      found.map (fun e => (e.card.id, e.reason)) = [(1, .noContent), (3, .clozeGone 2)] ∧
      CleanSweep none (made neglected) found) ∧
    (let m := made (neglected ++ [.update (.deleteCard 3)]);
      IsClozeCard m (sidedCard 2 2 "Cloze" 1 "") ∧
      ∃ found, findEmptyCards store none m = .ok found ∧
        found.map (fun e => (e.card.id, e.reason)) = [(1, .noContent)] ∧
        ∀ e ∈ found, ¬ IsClozeCard m e.card) := by
  have hids : ∀ {acts ids}, (findEmptyCards store none (made acts)).toOption.map
      (List.map fun e => (e.card.id, e.reason)) = some ids →
      ∃ found, findEmptyCards store none (made acts) = .ok found ∧
        found.map (fun e => (e.card.id, e.reason)) = ids := by
    intro acts ids h
    obtain ⟨found, hfound, hids⟩ := Option.map_eq_some_iff.mp h
    exact ⟨found, toOption_eq_some.mp hfound, hids⟩
  refine ⟨?_, ?_⟩
  · obtain ⟨found, swept, hids⟩ :=
      @hids neglected [(1, .noContent), (3, .clozeGone 2)] (by decide +kernel)
    exact ⟨found, swept, hids, cleanSweep_made neglected none swept⟩
  · intro m
    obtain ⟨found, swept, hids⟩ :=
      @hids (neglected ++ [.update (.deleteCard 3)]) [(1, .noContent)] (by decide +kernel)
    have hdistinct : ∀ nt ∈ m.noteTypes.values, (nt.templates.map (·.name)).Nodup := by decide +kernel
    have hdrafted : ∀ stored ∈ m.notes.values, ∀ note ∈ (readNote 0 stored).toOption,
        ∀ nt ∈ m.noteTypes.get? note.typeName, ∀ c ∈ m.cardsOf note.id,
          c.identity ∈ (nt.drafts note.fields).map CardDraft.identity := by decide +kernel
    refine ⟨⟨_, _, _, rfl, rfl, List.mem_singleton_self _, rfl, rfl⟩, found, swept, hids, ?_⟩
    refine (cleanSweep_made _ none swept).cloze hdistinct ?_
    intro id note hget drafts hcompile c hc
    unfold compile at hcompile
    split at hcompile
    · cases hcompile
    · rename_i nt hnt
      cases hcompile
      exact hdrafted _ (SortedMap.mem_values_iff.mpr ⟨id, hget⟩) note rfl nt hnt c hc

end Memory

end Flashcard
