import Flashcard.Proofs.Tables.Atomic
import Flashcard.Proofs.Tables.Image
import Flashcard.Proofs.Tables.Storable

/-!
# What is seen of a collection in tables

As long as ids fit 64 bits and scheduling states survive their documents, whatever is asked of the
tables of a collection is answered as it is in memory.

- `Tables.Fits`: what the columns ask of a collection.
- `Tables.SameLooks`: all questions are answered alike.
- `Tables.sameLooks_image`: so they are by the tables of a collection.
-/

namespace Flashcard

namespace Tables

open Memory

/-- Whether all of a collection fits its columns: the next ids, the next update sequence number and the
positions of fields have 64 bits, and documents with scheduling states are read as they were
written. -/
structure Fits (m : Memory) : Prop where
  usn : m.usn < lastId
  cardId : Store.nextId m.cards ≤ lastId
  noteId : Store.nextId m.notes ≤ lastId
  states : ∀ c ∈ m.cards.values, ReadsBack c.scheduling
  fields : ∀ nt ∈ m.noteTypes.values, (nt.fields.length : Int) ≤ lastId

instance (m : Memory) : Decidable (Fits m) :=
  decidable_of_iff
    (m.usn < lastId ∧ Store.nextId m.cards ≤ lastId ∧ Store.nextId m.notes ≤ lastId ∧
      (∀ c ∈ m.cards.values, ReadsBack c.scheduling) ∧
      ∀ nt ∈ m.noteTypes.values, (nt.fields.length : Int) ≤ lastId)
    ⟨fun ⟨usn, cardId, noteId, states, fields⟩ => ⟨usn, cardId, noteId, states, fields⟩,
      fun h => ⟨h.usn, h.cardId, h.noteId, h.states, h.fields⟩⟩

/-- Whether all questions to tables are answered as they are in memory. -/
structure SameLooks (t : Tables) (m : Memory) : Prop where
  noteType? : ∀ name, Tables.store.noteType? name t = Memory.store.noteType? name m
  noteTypes : Tables.store.noteTypes t = Memory.store.noteTypes m
  note? : ∀ id, Tables.store.note? id t = Memory.store.note? id m
  notesOfType : ∀ name, Tables.store.notesOfType name t = Memory.store.notesOfType name m
  nextNoteId : Tables.store.nextNoteId t = Memory.store.nextNoteId m
  card? : ∀ id, Tables.store.card? id t = Memory.store.card? id m
  cardsOfNote : ∀ id, Tables.store.cardsOfNote id t = Memory.store.cardsOfNote id m
  cardsInDeck : ∀ deck, Tables.store.cardsInDeck deck t = Memory.store.cardsInDeck deck m
  dueCards : ∀ deck now limit, now.Counted →
    Tables.store.dueCards deck now limit t = Memory.store.dueCards deck now limit m
  nextCardId : Tables.store.nextCardId t = Memory.store.nextCardId m
  deck? : ∀ id, Tables.store.deck? id t = Memory.store.deck? id m
  deckNamed? : ∀ name, Tables.store.deckNamed? name t = Memory.store.deckNamed? name m
  decks : Tables.store.decks t = Memory.store.decks m
  usn : Tables.store.usn t = Memory.store.usn m
  nextUsn : Tables.store.nextUsn t = Memory.store.nextUsn m

variable (pos : String → Int) {m : Memory}

/-! ## Note types -/

/-- What is stored of a note type can be decoded to it. -/
theorem decode_noteType (storable : Storable m) (fits : Fits m) {name : String} {nt : NoteType}
    (h : m.noteTypes.get? name = some nt) :
    (NoteTypeRow.of nt (pos name)).decode name = .ok nt := by
  obtain ⟨rfl, -⟩ := storable.intact.sound.types name nt h
  have hsorted := storable.sorted nt.name nt h
  have hfields := fits.fields nt (SortedMap.mem_values_iff.mpr ⟨nt.name, h⟩)
  have hsort : (nt.sortIndex : Int) ≤ nt.fields.length := Int.ofNat_le.mpr (Nat.le_of_lt hsorted)
  exact NoteTypeRow.decode_of (pos nt.name) (Int.le_trans hsort hfields)

/-- A note type is read as memory reads it. -/
theorem noteType?_image (storable : Storable m) (fits : Fits m) (name : String) :
    noteType? name (image pos m) = .ok (m.noteTypes.get? name) := by
  unfold noteType? image
  dsimp only
  rw [SortedMap.get?_mapValues]
  cases h : m.noteTypes.get? name with
  | none => rfl
  | some nt =>
    show ((NoteTypeRow.of nt (pos name)).decode name).map some = _
    rw [decode_noteType pos storable fits h]
    rfl

/-- The note types are listed in memory's order. -/
theorem noteTypeList_image (storable : Storable m) (fits : Fits m) :
    noteTypeList (image pos m) = .ok m.noteTypes.values := by
  have hread : ∀ e ∈ m.noteTypes.entries,
      ((fun row : String × NoteTypeRow => row.2.decode row.1) ∘
        fun e => (e.1, NoteTypeRow.of e.2 (pos e.1))) e = .ok e.2 := by
    intro e he
    rw [Function.comp_apply]
    exact decode_noteType pos storable fits (SortedMap.get?_eq_some_iff.mpr he)
  unfold noteTypeList image
  rw [SortedMap.entries_mapValues, List.mapM_map, SortedMap.values]
  exact mapM_eq_ok hread

/-! ## Notes -/

/-- A note is decoded as memory reads it, with the same complaint if it is corrupt. -/
theorem decode_note (storable : Storable m) {id : NoteId} {stored : StoredNote}
    (h : m.notes.get? id = some stored) : (noteRow stored).decode id = readNote id stored := by
  obtain ⟨note, -, rfl, -⟩ := storable.intact.typed id stored h
  obtain ⟨hcreated, hmodified⟩ := storable.noteTimes id note h
  have hdecode := NoteRow.decode_of hcreated.readsBack hmodified.readsBack
  rwa [storable.intact.sound.notes id note h] at hdecode

/-- A row that comes from memory has a value of the right kind in each column. -/
theorem misfits_noteRow (stored : StoredNote) : (noteRow stored).misfits = [] := by
  cases stored <;> rfl

/-- So it can be fetched. -/
theorem fetch_noteRow (stored : StoredNote) : (noteRow stored).fetch = .ok (noteRow stored) :=
  NoteRow.fetch_eq_ok.mpr ⟨misfits_noteRow stored, rfl⟩

/-- A note is read as memory reads it. -/
theorem note?_image (storable : Storable m) (id : NoteId) :
    note? id (image pos m) = Memory.note? id m := by
  unfold note? image Memory.note?
  dsimp only
  rw [SortedMap.get?_mapValues]
  cases h : m.notes.get? id with
  | none => rfl
  | some stored =>
    dsimp only [Option.map_some]
    rw [fetch_noteRow]
    exact congrArg (Except.map some) (decode_note storable h)

theorem typeName_noteRow (stored : StoredNote) : (noteRow stored).typeName = typeOf stored := by
  cases stored <;> rfl

/-- All notes of a collection can be fetched from its tables. -/
theorem fetchable_image (typeName : String) : (image pos m).Fetchable typeName := by
  intro n row hget _
  unfold image at hget
  rw [SortedMap.get?_mapValues] at hget
  obtain ⟨stored, -, rfl⟩ := Option.map_eq_some_iff.mp hget
  exact misfits_noteRow stored

/-- The notes of a type are listed as in memory, corrupt ones included. -/
theorem notesOfType_image (storable : Storable m) (typeName : String) :
    notesOfType typeName (image pos m) = Memory.notesOfType typeName m := by
  refine notesOfType_eq_ok.mpr ⟨fetchable_image pos typeName, ?_⟩
  unfold image
  rw [SortedMap.entries_mapValues, List.filter_map, List.map_map]
  have hfilter : m.notes.entries.filter ((fun row => row.2.typeName == typeName) ∘
      fun e => (e.1, noteRow e.2)) = m.notes.entries.filter fun e => typeOf e.2 == typeName := by
    refine List.filter_congr ?_
    intro e _
    rw [Function.comp_apply, typeName_noteRow]
  rw [hfilter]
  refine List.map_congr_left ?_
  intro e he
  exact (decode_note storable (SortedMap.get?_eq_some_iff.mpr (List.mem_filter.mp he).1)).symm

/-- The next note gets the id that memory would give it. -/
theorem nextNoteId_image (fits : Fits m) :
    unusedId (image pos m).notes = .ok (Store.nextId m.notes) := by
  have hid : Store.nextId (image pos m).notes = Store.nextId m.notes :=
    Store.nextId_mapValues ..
  unfold unusedId
  rw [hid, if_pos fits.noteId]

/-! ## Cards -/

/-- The rows of cards, in the order of the cards. -/
theorem rows_image (keyed : m.Keyed) :
    (image pos m).cards.entries = m.cards.values.map fun c => (c.id, .of c) := by
  unfold image SortedMap.values
  rw [SortedMap.entries_mapValues, List.map_map]
  refine List.map_congr_left ?_
  intro e he
  rw [Function.comp_apply, keyed e.1 e.2 (SortedMap.get?_eq_some_iff.mpr he)]

/-- Some rows of cards are read as these cards. -/
theorem decodeAll_filter (keyed : m.Keyed) (fits : Fits m) {p : CardId × CardRow → Bool}
    {q : Card → Bool} (hpq : ∀ c, p (c.id, .of c) = q c) :
    CardRow.decodeAll ((image pos m).cards.entries.filter p) = .ok (m.cards.values.filter q) := by
  rw [rows_image pos keyed, List.filter_map]
  have hfilter : (p ∘ fun c => (c.id, CardRow.of c)) = q := funext hpq
  rw [hfilter]
  exact CardRow.decodeAll_of fun c hc => fits.states c (List.mem_filter.mp hc).1

/-- A card is read as memory reads it. -/
theorem card?_image (keyed : m.Keyed) (fits : Fits m) (id : CardId) :
    card? id (image pos m) = .ok (m.cards.get? id) := by
  have hnodup : (m.cards.values.map (·.id)).Nodup := SortedMap.nodup_map_values keyed
  -- rows are searched for by the id that they hold, cards by the key that they are kept under
  have hfind : m.cards.values.find? (·.id = id) = m.cards.get? id := by
    refine Option.ext ?_
    intro c
    rw [find?_key_eq_some_iff hnodup, SortedMap.mem_values_iff]
    constructor
    · rintro ⟨⟨key, hget⟩, rfl⟩
      exact holds_of_get? keyed hget
    · intro hget
      exact ⟨⟨id, hget⟩, keyed id c hget⟩
  unfold card?
  rw [decodeAll_filter pos keyed fits (q := fun c => c.id = id) fun c => rfl]
  show Except.ok (m.cards.values.filter fun c => c.id = id).head? = _
  rw [List.head?_filter, hfind]

/-- The cards of a note are listed as in memory. -/
theorem cardsOfNote_image (storable : Storable m) (fits : Fits m) (id : NoteId) :
    cardsOfNote id (image pos m) = Memory.cardsOfNote id m := by
  have hcheck : m.checkNote id = .ok () := by
    refine if_neg ?_
    intro hfailing
    rw [storable.intact.calm] at hfailing
    cases hfailing
  rw [cardsOfNote_eq hcheck]
  exact decodeAll_filter pos storable.intact.sound.keyed fits fun c => rfl

theorem inDeck_of (deck : Option DeckId) (c : Card) :
    inDeck deck (.of c) = Memory.inDeck deck c := by
  cases deck <;> rfl

/-- The cards of a deck, or of all decks, are listed as in memory. -/
theorem cardsInDeck_image (keyed : m.Keyed) (fits : Fits m) (deck : Option DeckId) :
    cardsInDeck deck (image pos m) = Memory.cardsInDeck deck m :=
  decodeAll_filter pos keyed fits fun c => inDeck_of deck c

/-- The next card gets the id that memory would give it. -/
theorem nextCardId_image (fits : Fits m) :
    unusedId (image pos m).cards = .ok (Store.nextId m.cards) := by
  have hid : Store.nextId (image pos m).cards = Store.nextId m.cards :=
    Store.nextId_mapValues ..
  unfold unusedId
  rw [hid, if_pos fits.cardId]

/-! ## Due cards -/

section Due

variable {now : Timestamp} {c c' : Card}

/-- A row is due when its card is. -/
theorem isDue_of (counted : ∀ due, c.scheduling.dueDate = some due → due.Counted)
    (hnow : now.Counted) :
    isDue now.millis (.of c) = (!c.suspended && c.scheduling.isDue now) := by
  unfold isDue CardRow.of SchedulingState.isDue
  dsimp only
  cases hdue : c.scheduling.dueDate with
  | none => rfl
  | some due =>
    congr 1
    rw [Option.map_some, Bool.eq_iff_iff, decide_eq_true_eq]
    exact (Timestamp.isAtMost_iff_millis (counted due hdue) hnow).symm

/-- Rows of due cards are in the order of the cards. -/
theorem dueBefore_of (counted : ∀ due, c.scheduling.dueDate = some due → due.Counted)
    (counted' : ∀ due, c'.scheduling.dueDate = some due → due.Counted)
    (hdue : c.scheduling.isDue now = true) (hdue' : c'.scheduling.isDue now = true) :
    dueBefore (c.id, .of c) (c'.id, .of c') = Memory.dueBefore c c' := by
  unfold SchedulingState.isDue at hdue hdue'
  unfold dueBefore CardRow.of Memory.dueBefore
  dsimp only
  cases hx : c.scheduling.dueDate with
  | none =>
    rw [hx] at hdue
    cases hdue
  | some x =>
    cases hy : c'.scheduling.dueDate with
    | none =>
      rw [hy] at hdue'
      cases hdue'
    | some y =>
      -- due cards have due times, and these compare as their milliseconds do
      have hle := Timestamp.isAtMost_iff_millis (counted x hx) (counted' y hy)
      dsimp only [Option.map_some, Option.getD_some]
      rw [Bool.eq_iff_iff]
      by_cases heq : x = y
      · simp [heq]
      · have hne : x.millis ≠ y.millis := fun h =>
          heq (Timestamp.eq_of_millis_eq (counted x hx) (counted' y hy) h)
        simp only [heq, if_false, Bool.or_eq_true, Bool.and_eq_true, decide_eq_true_eq, beq_iff_eq,
          hle]
        omega

/-- **The same cards are due**, in the same order. -/
theorem dueCards_image (storable : Storable m) (fits : Fits m) (deck : Option DeckId)
    (hnow : now.Counted) (limit : Nat) :
    dueCards deck now limit (image pos m) = Memory.dueCards deck now limit m := by
  have keyed := storable.intact.sound.keyed
  have counted : ∀ c ∈ m.cards.values, ∀ due, c.scheduling.dueDate = some due → due.Counted := by
    intro c hc
    obtain ⟨id, hget⟩ := SortedMap.mem_values_iff.mp hc
    exact storable.dueTimes c (holds_of_get? keyed hget)
  -- filtering rows and filtering cards leaves the same
  have hfilter : (image pos m).cards.entries.filter
      (fun row => inDeck deck row.2 && isDue now.millis row.2) =
        ((m.cards.values.filter (Memory.inDeck deck)).filter
          fun c => !c.suspended && c.scheduling.isDue now).map fun c => (c.id, .of c) := by
    rw [rows_image pos keyed, List.filter_map, List.filter_filter]
    congr 1
    refine List.filter_congr ?_
    intro c hc
    rw [Function.comp_apply, inDeck_of, isDue_of (counted c hc) hnow, Bool.and_comm]
  have hdue : ∀ c ∈ (m.cards.values.filter (Memory.inDeck deck)).filter
      (fun c => !c.suspended && c.scheduling.isDue now),
        c ∈ m.cards.values ∧ c.scheduling.isDue now = true := by
    intro c hc
    obtain ⟨hc, hdue⟩ := List.mem_filter.mp hc
    exact ⟨(List.mem_filter.mp hc).1, (Bool.and_eq_true_iff.mp hdue).2⟩
  unfold dueCards
  dsimp only
  rw [hfilter, ← List.map_mergeSort (r := Memory.dueBefore), ← List.map_take]
  · refine CardRow.decodeAll_of ?_
    intro c hc
    exact fits.states c (hdue c ((List.mergeSort_perm ..).mem_iff.mp (List.mem_of_mem_take hc))).1
  · intro c hc c' hc'
    obtain ⟨hmem, hdue₁⟩ := hdue c hc
    obtain ⟨hmem', hdue₂⟩ := hdue c' hc'
    exact (dueBefore_of (counted c hmem) (counted c' hmem') hdue₁ hdue₂).symm

end Due

/-! ## Decks -/

/-- A deck is read as memory reads it. -/
theorem deck?_image (sound : Sound m) (id : DeckId) :
    ((image pos m).decks.get? id).map (fun name => (⟨id, name⟩ : Deck)) = m.decks.get? id := by
  unfold image
  dsimp only
  rw [SortedMap.get?_mapValues]
  cases h : m.decks.get? id with
  | none => rfl
  | some deck =>
    have hid := sound.decks id deck h
    exact congrArg some (by rw [← hid])

/-- A deck is found by its name as in memory. -/
theorem deckNamed?_image (sound : Sound m) (name : String) :
    ((image pos m).decks.entries.find? (·.2 == name)).map (·.1) =
      (m.decks.values.find? (·.name == name)).map (·.id) := by
  unfold image SortedMap.values
  rw [SortedMap.entries_mapValues, List.find?_map, List.find?_map, Option.map_map, Option.map_map]
  cases h : m.decks.entries.find? ((·.name == name) ∘ (·.2)) with
  | none =>
    have h' : m.decks.entries.find? ((·.2 == name) ∘ fun e => (e.1, e.2.name)) = none := h
    rw [h']
    rfl
  | some e =>
    have h' : m.decks.entries.find? ((·.2 == name) ∘ fun e => (e.1, e.2.name)) = some e := h
    rw [h']
    have hget := SortedMap.get?_eq_some_iff.mpr (List.mem_of_find?_eq_some h)
    exact congrArg some (sound.decks e.1 e.2 hget).symm

/-- The decks are listed as in memory. -/
theorem deckList_image (sound : Sound m) : deckList (image pos m) = .ok m.decks.values := by
  unfold deckList image SortedMap.values
  rw [SortedMap.entries_mapValues, List.map_map]
  congr 1
  refine List.map_congr_left ?_
  intro e he
  have hid := sound.decks e.1 e.2 (SortedMap.get?_eq_some_iff.mpr he)
  show (⟨e.1, e.2.name⟩ : Deck) = e.2
  rw [← hid]

/-! ## All questions -/

/-- **All questions** to the tables of a collection are answered as they are in memory. -/
theorem sameLooks_image (storable : Storable m) (fits : Fits m) :
    SameLooks (image pos m) m where
  noteType? := noteType?_image pos storable fits
  noteTypes := noteTypeList_image pos storable fits
  note? := note?_image pos storable
  notesOfType := notesOfType_image pos storable
  nextNoteId := nextNoteId_image pos fits
  card? := card?_image pos storable.intact.sound.keyed fits
  cardsOfNote := cardsOfNote_image pos storable fits
  cardsInDeck := cardsInDeck_image pos storable.intact.sound.keyed fits
  dueCards deck _ limit hnow := dueCards_image pos storable fits deck hnow limit
  nextCardId := nextCardId_image pos fits
  deck? id := congrArg Except.ok (deck?_image pos storable.intact.sound id)
  deckNamed? name := congrArg Except.ok (deckNamed?_image pos storable.intact.sound name)
  decks := deckList_image pos storable.intact.sound
  usn := rfl
  nextUsn := unusedUsn_eq_ok.mpr ⟨fits.usn, rfl⟩

end Tables

end Flashcard
