import Flashcard.Proofs.Memory.Filed
import Flashcard.Proofs.NoteTypeEdit

/-!
# Sound stores

The store in memory keeps everything under its own id or name, each card belongs to a note, and no
note has two cards of one identity. No operation and no planted fault changes that.

- `Memory.Sound`: the invariant.
- `Memory.sound_writePlan`: carrying out a fitting plan keeps it.
- `Memory.Sound.change`: each single change keeps it.
-/

namespace Flashcard

namespace Memory

open Collection

/-- What is true of every store that operations and planted faults lead to. -/
structure Sound (m : Memory) : Prop where
  keyed : m.Keyed
  notes : ∀ id note, m.notes.get? id = some (.readable note) → note.id = id
  types : ∀ name nt, m.noteTypes.get? name = some nt →
    nt.name = name ∧ (nt.templates.map (·.name)).Nodup
  decks : ∀ id deck, m.decks.get? id = some deck → deck.id = id
  deckNames : ∀ deck ∈ m.decks.values, ∀ deck' ∈ m.decks.values,
    deck.name = deck'.name → deck = deck'
  /-- Each card belongs to a note. -/
  owned : ∀ c, m.Holds c → m.notes.contains c.noteId = true
  /-- No note has two cards of one identity. -/
  single : ∀ c c', m.Holds c → m.Holds c' → c.noteId = c'.noteId → c.identity = c'.identity → c = c'

variable {m m' : Memory}

/-- What is sound is filed under the right ids. -/
theorem Sound.filed (h : Sound m) : Filed m :=
  ⟨h.keyed, h.notes, fun name nt hget => (h.types name nt hget).1⟩

/-- The empty memory is sound. -/
theorem sound_empty : Sound {} where
  keyed _ _ h := nomatch h
  notes _ _ h := nomatch h
  types _ _ h := nomatch h
  decks _ _ h := nomatch h
  deckNames _ h := nomatch h
  owned _ h := nomatch h
  single _ _ h := nomatch h

/-- Soundness does not depend on reviews, marks and planted failures. -/
theorem Sound.congr (h : Sound m) (hnoteTypes : m'.noteTypes = m.noteTypes)
    (hnotes : m'.notes = m.notes) (hcards : m'.cards = m.cards) (hdecks : m'.decks = m.decks) :
    Sound m' := by
  obtain ⟨_, _, _, _, _, _, _⟩ := m'
  cases hnoteTypes
  cases hnotes
  cases hcards
  cases hdecks
  exact ⟨h.keyed, h.notes, h.types, h.decks, h.deckNames, h.owned, h.single⟩

theorem sound_raiseUsn (h : Sound m) (usn : Usn) : Sound (m.raiseUsn usn) :=
  h.congr rfl rfl rfl rfl

theorem sound_failNote (h : Sound m) (id : NoteId) : Sound (m.failNote id) :=
  h.congr rfl rfl rfl rfl

/-- A note type whose templates have distinct names can be put. -/
theorem sound_putNoteType (h : Sound m) {nt : NoteType}
    (distinct : (nt.templates.map (·.name)).Nodup) : Sound (m.putNoteType nt) := by
  refine ⟨h.keyed, h.notes, ?_, h.decks, h.deckNames, h.owned, h.single⟩
  intro name nt' hget
  rcases SortedMap.get?_insert_eq_some_iff.mp hget with ⟨rfl, rfl⟩ | ⟨-, hget⟩
  · exact ⟨rfl, distinct⟩
  · exact h.types name nt' hget

/-- Any note can be put. -/
theorem sound_putNote (h : Sound m) (note : Note) : Sound (m.putNote note) := by
  refine ⟨h.keyed, ?_, h.types, h.decks, h.deckNames, ?_, h.single⟩
  · intro id note' hget
    rcases SortedMap.get?_insert_eq_some_iff.mp hget with ⟨hid, heq⟩ | ⟨-, hget⟩
    · cases heq
      exact hid.symm
    · exact h.notes id note' hget
  · intro c hc
    exact SortedMap.contains_insert.mpr (Or.inr (h.owned c hc))

/-- Any note can be spoilt. -/
theorem sound_spoilNote (h : Sound m) (id : NoteId) (typeName reason : String) :
    Sound (m.spoilNote id typeName reason) := by
  refine ⟨h.keyed, ?_, h.types, h.decks, h.deckNames, ?_, h.single⟩
  · intro id' note hget
    rcases SortedMap.get?_insert_eq_some_iff.mp hget with ⟨-, heq⟩ | ⟨-, hget⟩
    · cases heq
    · exact h.notes id' note hget
  · intro c hc
    exact SortedMap.contains_insert.mpr (Or.inr (h.owned c hc))

/-- A deck of a new name can be added. -/
theorem sound_addDeck (h : Sound m) {name : String}
    (absent : ∀ deck ∈ m.decks.values, deck.name ≠ name) : Sound (m.addDeck name) := by
  refine ⟨h.keyed, h.notes, h.types, ?_, ?_,
    h.owned, h.single⟩
  · intro id deck hdeck
    rcases SortedMap.get?_insert_eq_some_iff.mp hdeck with ⟨rfl, rfl⟩ | ⟨-, hdeck⟩
    · rfl
    · exact h.decks id deck hdeck
  · -- the name of the new deck was not in use
    intro deck hdeck deck' hdeck' heq
    rcases SortedMap.mem_values_insert hdeck with rfl | hdeck <;>
      rcases SortedMap.mem_values_insert hdeck' with rfl | hdeck'
    · rfl
    · exact absurd heq.symm (absent deck' hdeck')
    · exact absurd heq (absent deck hdeck)
    · exact h.deckNames deck hdeck deck' hdeck' heq

/-! ## Cards -/

/-- Held are the card that is put and those of other ids. -/
theorem holds_putCard {c c' : Card} :
    (m.putCard c).Holds c' ↔ c' = c ∨ (c'.id ≠ c.id ∧ m.Holds c') := by
  rw [Holds, putCard, SortedMap.get?_insert_eq_some_iff]
  constructor
  · rintro (⟨-, rfl⟩ | hother)
    · exact Or.inl rfl
    · exact Or.inr hother
  · rintro (rfl | hother)
    · exact Or.inl ⟨rfl, rfl⟩
    · exact Or.inr hother

/-- Held are those of other ids. -/
theorem holds_dropCard {id : CardId} {c : Card} :
    (m.dropCard id).Holds c ↔ c.id ≠ id ∧ m.Holds c := SortedMap.get?_erase_eq_some_iff

/-- A card may get another content and other marks, but no other note or identity. -/
theorem sound_putCard (h : Sound m) {c c' : Card} (hc : m.Holds c) (hid : c'.id = c.id)
    (hnote : c'.noteId = c.noteId) (hidentity : c'.identity = c.identity) :
    Sound (m.putCard c') := by
  -- each card afterwards stands for one before, of the same id, note and identity
  have hold : ∀ {d : Card}, (m.putCard c').Holds d → ∃ d₀, m.Holds d₀ ∧ d₀.id = d.id ∧
      d₀.noteId = d.noteId ∧ d₀.identity = d.identity := by
    intro d hd
    rcases holds_putCard.mp hd with rfl | ⟨-, hd⟩
    · exact ⟨c, hc, hid.symm, hnote.symm, hidentity.symm⟩
    · exact ⟨d, hd, rfl, rfl, rfl⟩
  refine ⟨?_, h.notes, h.types, h.decks, h.deckNames, ?_, ?_⟩
  · intro id d hget
    rcases SortedMap.get?_insert_eq_some_iff.mp hget with ⟨rfl, rfl⟩ | ⟨-, hget⟩
    · rfl
    · exact h.keyed id d hget
  · intro d hd
    obtain ⟨d₀, hd₀, -, hn, -⟩ := hold hd
    exact hn ▸ h.owned d₀ hd₀
  · intro d d' hd hd' hn hi
    obtain ⟨d₀, hd₀, hid₀, hn₀, hi₀⟩ := hold hd
    obtain ⟨d₁, hd₁, hid₁, hn₁, hi₁⟩ := hold hd'
    have heq : d₀ = d₁ := h.single d₀ d₁ hd₀ hd₁ (by rw [hn₀, hn, hn₁]) (by rw [hi₀, hi, hi₁])
    exact hd.eq_of_id hd' (by rw [← hid₀, heq, hid₁])

/-- Any card can be dropped. -/
theorem sound_dropCard (h : Sound m) (id : CardId) : Sound (m.dropCard id) := by
  refine ⟨?_, h.notes, h.types, h.decks, h.deckNames,
    fun c hc => h.owned c (holds_dropCard.mp hc).2,
    fun c c' hc hc' => h.single c c' (holds_dropCard.mp hc).2 (holds_dropCard.mp hc').2⟩
  intro id' c hget
  exact h.keyed id' c (SortedMap.get?_erase_eq_some_iff.mp hget).2

/-- Carrying out a plan that fits the cards of a note keeps a store sound. -/
theorem sound_writePlan (h : Sound m) {n : NoteId} {drafts : List CardDraft}
    {plan : ReconcilePlan} (fit : m.IsFit n drafts plan) (hn : m.notes.contains n = true) :
    Sound (m.writePlan plan) := by
  have hcards := @holds_writePlan m n drafts plan h.keyed fit
  refine ⟨keyed_writePlan h.keyed fit, ?_, ?_, ?_, ?_, ?_, ?_⟩
  · rw [notes_writePlan]
    exact h.notes
  · rw [noteTypes_writePlan]
    exact h.types
  · rw [decks_writePlan]
    exact h.decks
  · rw [decks_writePlan]
    exact h.deckNames
  · intro c hc
    rw [notes_writePlan]
    rcases hcards.mp hc with ⟨-, hc⟩ | hc
    · exact h.owned c hc
    · rw [fit.noteId_of_mem_outcome h.keyed hc]
      exact hn
  · -- two cards of one note are both of this note, or neither is
    intro c c' hc hc' hnote hi
    rcases hcards.mp hc with ⟨hne, hc⟩ | hc <;> rcases hcards.mp hc' with ⟨hne', hc'⟩ | hc'
    · exact h.single c c' hc hc' hnote hi
    · exact absurd (hnote.trans (fit.noteId_of_mem_outcome h.keyed hc')) hne
    · exact absurd (hnote.symm.trans (fit.noteId_of_mem_outcome h.keyed hc)) hne'
    · exact fit.eq_of_identity h.keyed hc hc' hi

/-! ## Every change -/

/-- A new note has no cards yet. -/
theorem cardsOf_nextId (h : Sound m) : m.cardsOf (Store.nextId m.notes) = [] := by
  refine List.eq_nil_iff_forall_not_mem.mpr ?_
  intro c hc
  obtain ⟨hholds, hn⟩ := (mem_cardsOf h.keyed).mp hc
  obtain ⟨note, hnote⟩ := SortedMap.contains_iff.mp (h.owned c hholds)
  exact absurd hn (Int.ne_of_lt (Store.lt_nextId_of_get? hnote))

/-- The plan for a note's cards fits the note. -/
theorem isFit_fit (r : Regenerator) (nt : NoteType) (note : Note) (m : Memory) :
    m.IsFit note.id (nt.drafts note.fields)
      (r.fit nt note (m.cardsOf note.id) (Store.nextId m.cards)) :=
  ⟨nt, r.context note.id (m.cardsOf note.id), rfl, rfl⟩

/-- A note can be written with a fitting plan. -/
theorem sound_writeNote (h : Sound m) {note : Note} {drafts : List CardDraft}
    {plan : ReconcilePlan} (fit : m.IsFit note.id drafts plan) : Sound (m.writeNote note plan) := by
  refine sound_raiseUsn (sound_writePlan (sound_putNote h note) (n := note.id) fit ?_) note.usn
  exact SortedMap.contains_insert.mpr (Or.inl rfl)

/-- A note type whose templates have distinct names can be written with any notes. -/
theorem sound_writeNoteType (h : Sound m) {nt : NoteType}
    (distinct : (nt.templates.map (·.name)).Nodup) (notes : List Note) :
    Sound (m.writeNoteType nt notes) := by
  -- the store changes along the notes, so the induction is over all sound stores
  have hnotes : ∀ (notes : List Note) {m : Memory}, Sound m →
      Sound (notes.foldl (fun m note => (m.putNote note).raiseUsn note.usn) m) := by
    intro notes
    induction notes with
    | nil => exact id
    | cons note rest ih => exact fun h => ih (sound_raiseUsn (sound_putNote h note) note.usn)
  exact sound_putNoteType (hnotes notes h) distinct

/-- A note can be fitted. -/
theorem Sound.refit {scheduler : Scheduler} {typeName : String} {options : RegenerationOptions}
    (h : Sound m) (hrefit : Refit scheduler typeName options m m') : Sound m' := by
  cases hrefit with
  | fit _ _ _ _ _ found _ _ _ =>
    refine sound_writePlan h (isFit_fit _ _ _ m) ?_
    rw [h.notes _ _ found]
    exact SortedMap.contains_iff.mpr ⟨_, found⟩

/-- **Soundness is kept** by each single change. -/
theorem Sound.change {op : Operation} (hchange : Change op m m') (h : Sound m) : Sound m' := by
  cases hchange with
  | stockType stock _ => exact sound_putNoteType h (NoteType.nodup_templates_stock _ stock)
  | stockDeck absent | newDeck absent => exact sound_addDeck h absent
  | @newNote scheduler new nt note _ _ _ _ note_eq =>
    have hid : note.id = Store.nextId m.notes := note_eq ▸ rfl
    have fit := isFit_fit (m.regenerator scheduler new.deck new.now) nt note m
    rw [hid, cardsOf_nextId h, ← hid] at fit
    exact sound_writeNote h fit
  | noteChange _ _ _ _ => exact sound_writeNote h (isFit_fit _ _ _ m)
  | edit typed edited_eq =>
    exact sound_writeNoteType h
      (NoteType.nodup_templates_edit edited_eq (h.types _ _ typed).2) _
  | editedCards refit | newCards refit => exact h.refit refit
  | @answer _ _ c next _ _ found _ =>
    have hput : Sound (m.putCard { c with scheduling := next, usn := m.usn + 1 }) :=
      sound_putCard h (holds_of_get? h.keyed found) rfl rfl rfl
    exact hput.congr rfl rfl rfl rfl
  | @flags id update c _ found =>
    have hput : Sound (m.putCard { c with
        flag := update.flag.getD c.flag
        marked := update.marked.getD c.marked
        suspended := update.suspended.getD c.suspended
        usn := m.usn + 1 }) :=
      sound_putCard h (holds_of_get? h.keyed found) rfl rfl rfl
    exact sound_raiseUsn hput (m.usn + 1)
  | deletion _ => exact sound_dropCard h _

/-- **Soundness is kept** by each operation. -/
theorem Sound.after (h : Sound m) (op : Operation) : Sound (op.after store m) :=
  after_invariant (fun _ _ => Sound.change) h

end Memory

end Flashcard
