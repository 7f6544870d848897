import Flashcard.Proofs.Memory.Batch
import Flashcard.Proofs.Tables.Acceptance
import Flashcard.Proofs.Template.FieldName

/-!
# The fields that cards depend on

Of the values of a note, compiling reads those under the names that the note type refers to: the gates of
its plain templates, the names in tags, also behind `type:` and `cloze:`, and `Text` where a template is for
cloze cards. Two notes with the same values under these names have the same drafts. So a change of other
values leaves the cards of a note alone, if they were as compiling makes them.

- `NoteType.referenced`: the names that a note type refers to.
- `FieldMap.AgreeOn`: the same values under some names.
- `UpToDate`: a stored note whose cards are those of its drafts.
- `NoteChange.Spares`: a change that gives no other value to some names.

## Main statements

- `Cloze.lookup_congr`, `Cloze.expand_congr`: one tag of a cloze template, and a whole one.
- `NoteType.drafts_eq_of_agreeOn`: the drafts depend on the values under the referenced names.
- `UpToDate.isNoop_of_planned`: the plan for a change that spares these has nothing to do, whatever the store.
- `compile_reads_referenced`: both for compiling and for the stores.
-/

namespace Flashcard

open Template (tokenize keyOf behind? typePrefix clozePrefix fieldChars fieldRead)

/-! ## Referenced names -/

/-- The names that a key refers to: itself, and the name behind `type:`. -/
def Template.mentioned (key : List Char) : List (List Char) := key :: (behind? typePrefix key).toList

/-- The names that a key refers to in a cloze template: the same, and those that the name behind `cloze:`
refers to. -/
def Cloze.mentioned (key : List Char) : List (List Char) :=
  Template.mentioned key ++ (behind? clozePrefix key).toList.flatMap Template.mentioned

/-- The keys of the tags of a format. -/
def Template.keys (format : String) : List (List Char) :=
  (tokenize format).filterMap fun
    | .text _ => none
    | .tag inner => some (keyOf inner)

namespace CardTemplate

/-- The keys of the tags of a template, of both sides. -/
def keys (t : CardTemplate) : List (List Char) := Template.keys t.question ++ Template.keys t.answer

/-- The names that a template refers to. -/
def referenced (t : CardTemplate) : List String :=
  if t.isCloze then "Text" :: (t.keys.flatMap Cloze.mentioned).map String.ofList
  else t.gate.toList ++ (t.keys.flatMap Template.mentioned).map String.ofList

end CardTemplate

/-- The names that a note type refers to. -/
def NoteType.referenced (nt : NoteType) : List String := nt.templates.flatMap (·.referenced)

/-- Two field maps have the same values under some names, where no value counts as an empty one. -/
def FieldMap.AgreeOn (names : List String) (a b : FieldMap) : Prop :=
  ∀ name ∈ names, a.value name = b.value name

variable {a b : FieldMap}

theorem FieldMap.AgreeOn.fieldChars_eq {names : List (List Char)}
    (h : AgreeOn (names.map String.ofList) a b) {name : List Char} (hname : name ∈ names) :
    fieldChars a name = fieldChars b name :=
  congrArg String.toList (h _ (List.mem_map_of_mem hname))

/-! ## Tags and formats -/

/-- The name that a tag reads is one that its key refers to. -/
theorem Template.fieldRead_mem_mentioned (key : List Char) : fieldRead key ∈ mentioned key := by
  cases hbehind : behind? typePrefix key with
  | none =>
    rw [fieldRead_of_untyped hbehind]
    exact List.mem_cons_self ..
  | some field =>
    rw [fieldRead_of_typed hbehind, mentioned, hbehind]
    exact List.mem_cons_of_mem _ (List.mem_cons_self ..)

theorem Template.keyOf_mem_keys {format : String} {inner : List Char}
    (h : .tag inner ∈ tokenize format) : keyOf inner ∈ keys format :=
  List.mem_filterMap.mpr ⟨_, h, rfl⟩

theorem Template.render_congr_mentioned {format : String} {front : Option String}
    (h : ∀ key ∈ keys format, ∀ name ∈ mentioned key, fieldChars a name = fieldChars b name) :
    render format a front = render format b front :=
  render_congr fun _ hinner => h _ (keyOf_mem_keys hinner) _ (fieldRead_mem_mentioned _)

namespace Cloze

variable {front : Option String} {target : UInt32} {reveal : Bool}

/-- **What a tag of a cloze template stands for** depends on the names that it refers to. -/
theorem lookup_congr {key : List Char}
    (h : ∀ name ∈ mentioned key, fieldChars a name = fieldChars b name) :
    lookup a front target reveal key = lookup b front target reveal key := by
  unfold lookup
  cases hbehind : behind? clozePrefix key with
  | none =>
    exact Template.lookup_congr
      (h _ (List.mem_append_left _ (Template.fieldRead_mem_mentioned key)))
  | some field =>
    -- the text that is rendered is itself what a tag with the name as its key stands for
    have hmem : fieldRead field ∈ mentioned key := by
      rw [mentioned, hbehind]
      exact List.mem_append_right _ (List.mem_flatMap.mpr
        ⟨field, List.mem_cons_self .., Template.fieldRead_mem_mentioned field⟩)
    dsimp only
    rw [Template.lookup_congr (h _ hmem)]

theorem expand_congr {format : String}
    (h : ∀ key ∈ Template.keys format, ∀ name ∈ mentioned key, fieldChars a name = fieldChars b name) :
    expand format a front target reveal = expand format b front target reveal :=
  Template.expand_congr fun _ hinner => lookup_congr (h _ (Template.keyOf_mem_keys hinner))

end Cloze

/-! ## Drafts -/

namespace CardTemplate

variable {t : CardTemplate}

theorem gate_of_gateField? {gate : String} (h : t.gateField? = some gate) : t.gate = some gate := by
  obtain ⟨gate', hgate, hfilled⟩ := Option.bind_eq_some_iff.mp h
  unfold Text.nonBlank? at hfilled
  split at hfilled
  · cases hfilled
  · cases hfilled
    exact hgate

theorem isOpen_congr (h : ∀ gate, t.gate = some gate → a.value gate = b.value gate) :
    t.isOpen a = t.isOpen b := by
  unfold isOpen
  cases hgate : t.gateField? with
  | none => rfl
  | some gate =>
    dsimp only
    rw [h gate (gate_of_gateField? hgate)]

/-- Both sides are filled in alike, the back with the same front. -/
theorem plainDraft_congr (h : ∀ key ∈ t.keys, ∀ name ∈ Template.mentioned key,
    fieldChars a name = fieldChars b name) : t.plainDraft a = t.plainDraft b := by
  unfold plainDraft
  dsimp only
  rw [Template.render_congr_mentioned fun key hkey => h key (List.mem_append_left _ hkey),
    Template.render_congr_mentioned fun key hkey => h key (List.mem_append_right _ hkey)]

theorem clozeDraft_congr (h : ∀ key ∈ t.keys, ∀ name ∈ Cloze.mentioned key,
    fieldChars a name = fieldChars b name) (ordinal : UInt32) :
    t.clozeDraft a ordinal = t.clozeDraft b ordinal := by
  unfold clozeDraft
  dsimp only
  rw [Cloze.expand_congr fun key hkey => h key (List.mem_append_left _ hkey),
    Cloze.expand_congr fun key hkey => h key (List.mem_append_right _ hkey)]

/-- **The drafts of a template** depend on the values under the names that it refers to. -/
theorem drafts_eq_of_agreeOn (h : a.AgreeOn t.referenced b) : t.drafts a = t.drafts b := by
  unfold referenced at h
  unfold drafts
  split at h
  · next hcloze =>
    obtain ⟨hsource, htags⟩ := List.forall_mem_cons.mp h
    have hordinals : clozeOrdinals a = clozeOrdinals b := congrArg Cloze.ordinals hsource
    have hdraft : t.clozeDraft a = t.clozeDraft b := funext fun ordinal =>
      clozeDraft_congr (fun key hkey name hname =>
        FieldMap.AgreeOn.fieldChars_eq htags (List.mem_flatMap.mpr ⟨key, hkey, hname⟩)) ordinal
    rw [if_pos hcloze, if_pos hcloze, hordinals, hdraft]
  · next hplain =>
    obtain ⟨hgates, htags⟩ := List.forall_mem_append.mp h
    have hopen : t.isOpen a = t.isOpen b :=
      isOpen_congr fun gate hgate => hgates gate (Option.mem_toList.mpr hgate)
    have hdraft : t.plainDraft a = t.plainDraft b := plainDraft_congr fun key hkey name hname =>
      FieldMap.AgreeOn.fieldChars_eq htags (List.mem_flatMap.mpr ⟨key, hkey, hname⟩)
    rw [if_neg hplain, if_neg hplain, hopen, hdraft]

end CardTemplate

/-- **The drafts of a note type** depend on the values under the names that it refers to. -/
theorem NoteType.drafts_eq_of_agreeOn {nt : NoteType} (h : a.AgreeOn nt.referenced b) :
    nt.drafts a = nt.drafts b :=
  List.flatMap_congr fun _ ht => CardTemplate.drafts_eq_of_agreeOn fun name hname =>
    h name (List.mem_flatMap.mpr ⟨_, ht, hname⟩)

/-- New values that are the old ones under some names change nothing there. -/
theorem FieldMap.agreeOn_merge {names : List String} {fields change : FieldMap}
    (h : ∀ name ∈ names, ∀ value, change.get? name = some value → fields.value name = value) :
    fields.AgreeOn names (fields.merge change) := by
  intro name hname
  show _ = ((fields.merge change).get? name).getD ""
  rw [SortedMap.get?_merge]
  cases hchange : change.get? name with
  | none => rfl
  | some value => exact h name hname value hchange

/-! ## Changes that leave the cards alone -/

namespace Collection

/-- The new values of a change are, under some names, the ones that the note has already. -/
def NoteChange.Spares (change : NoteChange) (names : List String) (note : Note) : Prop :=
  ∀ name ∈ names, ∀ value, change.fields.get? name = some value → note.fields.value name = value

/-- A note in a store, of a type in this store, whose cards are the ones that compiling makes: they show
its drafts, each once. Of drafts of one identity the first one counts. -/
structure UpToDate {σ : Type} (store : Store σ) (s : σ) (id : NoteId) (note : Note) (nt : NoteType) :
    Prop where
  found : store.note? id s = .ok (some note)
  typed : store.noteType? note.typeName s = .ok (some nt)
  shown : ∃ cards drafts, store.cardsOfNote note.id s = .ok cards ∧
    compile (.only nt) note.typeName note.fields = .ok drafts ∧
    (cards.map Card.draft).Perm (firstOfEach CardDraft.identity drafts)

namespace UpToDate

variable {σ : Type} {store : Store σ} {s s' : σ} {note note' : Note} {nt : NoteType} {usn : Usn}
  {scheduler : Scheduler} {change : NoteChange} {plan : ReconcilePlan}
  (upToDate : UpToDate store s change.noteId note nt)

include upToDate

/-- **The plan for a change that spares the referenced names** has nothing to do, whatever the store. -/
theorem isNoop_of_planned (spared : change.Spares nt.referenced note)
    (planned : planNoteChange store scheduler change s = .ok (note', plan)) : plan.isNoop = true := by
  obtain ⟨old, nt', usn, decks, existing, first, found, typed, -, -, -, listed, -, rfl, rfl⟩ :=
    planNoteChange_eq_ok.mp planned
  obtain rfl : old = note := Option.some.inj (Except.ok.inj (found.symm.trans upToDate.found))
  obtain rfl : nt' = nt := Option.some.inj (Except.ok.inj (typed.symm.trans upToDate.typed))
  obtain ⟨cards, drafts, listed', compiled, shown⟩ := upToDate.shown
  obtain rfl : existing = cards := Except.ok.inj (listed.symm.trans listed')
  obtain ⟨-, rfl⟩ := compile_only_eq_ok.mp compiled
  have hdrafts : nt'.drafts (change.note old usn).fields = nt'.drafts old.fields :=
    (NoteType.drafts_eq_of_agreeOn (FieldMap.agreeOn_merge spared)).symm
  rw [Regenerator.fit, hdrafts]
  exact Reconcile.isNoop_of_drafts _ nt' _ _ shown

/-- There is a plan if the store tells its marks, decks and ids. -/
theorem exists_planned (marked : store.nextUsn s = .ok usn)
    (named : ∃ decks, store.deckNames s = .ok decks) (next : ∃ first, store.nextCardId s = .ok first)
    (scheduler : Scheduler) :
    ∃ plan, planNoteChange store scheduler change s = .ok (change.note note usn, plan) ∧
      plan.noteId = note.id := by
  obtain ⟨decks, named⟩ := named
  obtain ⟨first, next⟩ := next
  obtain ⟨cards, _, listed, compiled, -⟩ := upToDate.shown
  exact ⟨_, planNoteChange_eq_ok.mpr ⟨note, nt, usn, decks, cards, first, upToDate.found,
    upToDate.typed, (compile_only_eq_ok.mp compiled).1, marked, named, listed, next, rfl, rfl⟩, rfl⟩

theorem isNoop_of_done (spared : change.Spares nt.referenced note)
    (done : Collection.updateNote store scheduler change s = .ok plan s') : plan.isNoop = true := by
  obtain ⟨_, planned, -⟩ := done_updateNote.mp done
  exact upToDate.isNoop_of_planned spared planned

/-- Where a plan with nothing to do is taken, a change that spares the referenced names goes through. -/
theorem updateNote_done (spared : change.Spares nt.referenced note)
    (marked : store.nextUsn s = .ok usn) (named : ∃ decks, store.deckNames s = .ok decks)
    (next : ∃ first, store.nextCardId s = .ok first)
    (taken : ∀ plan, plan.isNoop = true → plan.noteId = note.id →
      store.applyNotePlan (change.note note usn) plan s = .ok () s') (scheduler : Scheduler) :
    ∃ plan, Collection.updateNote store scheduler change s = .ok plan s' ∧ plan.isNoop = true := by
  obtain ⟨plan, planned, own⟩ := upToDate.exists_planned marked named next scheduler
  have hnoop := upToDate.isNoop_of_planned spared planned
  exact ⟨plan, done_updateNote.mpr ⟨_, planned, taken plan hnoop own⟩, hnoop⟩

end UpToDate

end Collection

open Collection

/-- **Compiling reads the referenced names only.** With the same values under these, a note of the type has
the same drafts. So, whatever the store, a change that spares them has nothing to create, update or delete
where the cards of the note are up to date. In memory, and in tables with an id and a number for the
change left, it goes through, and the cards stay as they are, marks included. -/
theorem compile_reads_referenced (nt : NoteType) :
    (∀ (types : NoteType.Lookup) (typeName : String) (a b : FieldMap), types typeName = some nt →
      a.AgreeOn nt.referenced b →
        ∃ drafts, compile types typeName a = .ok drafts ∧ compile types typeName b = .ok drafts) ∧
    (∀ (σ : Type) (store : Store σ) (s s' : σ) (note : Note) (scheduler : Scheduler) (change : NoteChange)
      (plan : ReconcilePlan), UpToDate store s change.noteId note nt →
      change.Spares nt.referenced note →
      Collection.updateNote store scheduler change s = .ok plan s' → plan.isNoop = true) ∧
    (∀ (m : Memory) (note : Note) (scheduler : Scheduler) (change : NoteChange),
      UpToDate Memory.store m change.noteId note nt → change.Spares nt.referenced note →
        ∃ plan m', Collection.updateNote Memory.store scheduler change m = .ok plan m' ∧
          plan.isNoop = true ∧ m'.cards = m.cards) ∧
    ∀ (t : Tables) (note : Note) (scheduler : Scheduler) (change : NoteChange),
      UpToDate Tables.store t change.noteId note nt → change.Spares nt.referenced note →
      Store.nextId t.cards ≤ lastId → t.usn < lastId →
        ∃ plan t', Collection.updateNote Tables.store scheduler change t = .ok plan t' ∧
          plan.isNoop = true ∧ t'.cards = t.cards := by
  refine ⟨?_, ?_, ?_, ?_⟩
  · intro types typeName a b typed agree
    refine ⟨nt.drafts a, by rw [compile, typed], ?_⟩
    rw [compile, typed, NoteType.drafts_eq_of_agreeOn agree]
  · intro σ store s s' note scheduler change plan upToDate spared done
    exact upToDate.isNoop_of_done spared done
  · intro m note scheduler change upToDate spared
    have hcheck : m.checkNote note.id = .ok () := by
      obtain ⟨_, _, listed, -⟩ := upToDate.shown
      exact (Memory.cardsOfNote_eq_ok.mp listed).1
    obtain ⟨plan, done, hnoop⟩ := upToDate.updateNote_done spared rfl ⟨_, rfl⟩ ⟨_, rfl⟩
      (fun _ hnoop own => Memory.applyNotePlan_of_isNoop hnoop hcheck own) scheduler
    exact ⟨plan, _, done, hnoop, rfl⟩
  · intro t note scheduler change upToDate spared ids marked
    obtain ⟨plan, done, hnoop⟩ := upToDate.updateNote_done spared
      (Tables.unusedUsn_eq_ok.mpr ⟨marked, rfl⟩) ⟨_, rfl⟩ ⟨_, if_pos ids⟩
      (fun _ hnoop _ => Tables.applyNotePlan_of_isNoop hnoop) scheduler
    exact ⟨plan, _, done, hnoop, rfl⟩

/-- The stock type for cloze cards with a field more, which no template refers to. -/
def sourced : NoteType := { NoteType.cloze with fields := ["Text", "Extra", "Source"] }

/-- The values of a note with two gaps. -/
def sourcedFields : FieldMap := .ofList [("Text", "{{c1::a}} {{c2::b}}"), ("Source", "book")]

/-- What makes a collection with such a note. -/
def sourcedRequests : List Operation :=
  [.seed "Default", .editNoteType {} "Cloze" (.addField "Source" none) ⟨1, ⟨0, 0⟩, neverCancelled⟩,
    .addNote {} ⟨"Cloze", 1, sourcedFields, [], ⟨0, 0⟩⟩]

/-- The source of the note is changed, and the two cards stay. -/
theorem compile_reads_referenced_sourced :
    let change : NoteChange := ⟨1, .ofList [("Source", "film")], none, 1, ⟨60, 0⟩⟩
    let m := Operation.afterAll Memory.store sourcedRequests {}
    let t := Operation.afterAll Tables.store sourcedRequests {}
    (∃ drafts, compile (.only sourced) "Cloze" sourcedFields = .ok drafts ∧
      compile (.only sourced) "Cloze" (sourcedFields.merge change.fields) = .ok drafts) ∧
    (∃ plan m', Collection.updateNote Memory.store {} change m = .ok plan m' ∧
      plan.isNoop = true ∧ m'.cards = m.cards) ∧
    ∃ plan t', Collection.updateNote Tables.store {} change t = .ok plan t' ∧
      plan.isNoop = true ∧ t'.cards = t.cards := by
  intro change m t
  let note : Note := ⟨1, "Cloze", sourcedFields, [], ⟨0, 0⟩, ⟨0, 0⟩, 1⟩
  obtain ⟨hcompile, hany, hmemory, htables⟩ := compile_reads_referenced sourced
  have outside : ∀ name ∈ sourced.referenced, change.fields.get? name = none := by decide +kernel
  have spared : change.Spares sourced.referenced note := by
    intro name hname value hvalue
    rw [outside name hname] at hvalue
    cases hvalue
  have compiled : compile (.only sourced) note.typeName note.fields =
      .ok (sourced.drafts sourcedFields) := compile_only_eq_ok.mpr ⟨rfl, rfl⟩
  have inMemory : UpToDate Memory.store m change.noteId note sourced := by
    refine ⟨by decide +kernel, by decide +kernel, m.cardsOf 1, _, ?_, compiled, .of_eq ?_⟩
    · exact Memory.cardsOfNote_eq_ok.mpr ⟨by decide +kernel, rfl⟩
    · decide +kernel
  have inTables : UpToDate Tables.store t change.noteId note sourced := by
    have legible : Tables.Legible t := by decide +kernel
    refine ⟨by decide +kernel, by decide +kernel, t.readCards 1, _, ?_, compiled, .of_eq ?_⟩
    · exact (legible.note 1).cardsOfNote_eq
    · decide +kernel
  refine ⟨hcompile _ _ _ _ rfl (FieldMap.agreeOn_merge spared), ?_, ?_⟩
  · obtain ⟨plan, m', done, -, hcards⟩ := hmemory m note {} change inMemory spared
    exact ⟨plan, m', done, hany _ _ _ _ note _ _ _ inMemory spared done, hcards⟩
  · exact htables t note {} change inTables spared (by decide +kernel) (by decide +kernel)

end Flashcard
