import Flashcard.Proofs.Memory.Cards
import Flashcard.Proofs.Memory.Change
import Flashcard.Proofs.Tables.Writes

/-!
# A collection in memory and its tables

The tables that hold a collection in memory, and how each write to the one goes along with a write
to the other.

- `Tables.image`: the tables of a collection.
- `Tables.replaceNote_image` and its like: single writes.
- `Tables.writePlan_image`: the writes of a plan, none of which is refused.
-/

namespace Flashcard

namespace Tables

open Collection Memory

/-- The row of a note as it is kept. -/
def noteRow : StoredNote → NoteRow
  | .readable note => .of note
  | .unreadable typeName reason => ⟨typeName, .spoiled reason, .spoiled reason, "", "", 0, []⟩

/-- The tables that hold a collection, where note types have the given positions. -/
def image (pos : String → Int) (m : Memory) : Tables where
  usn := m.usn
  decks := m.decks.mapValues fun _ deck => deck.name
  noteTypes := m.noteTypes.mapValues fun name nt => .of nt (pos name)
  notes := m.notes.mapValues fun _ stored => noteRow stored
  cards := m.cards.mapValues fun _ c => .of c
  reviews := m.reviews.map fun e => .of e.1 e.2

variable (pos : String → Int) {m : Memory}

/-- The tables of a new file hold the empty memory. -/
theorem image_empty : image pos {} = {} := rfl

/-! ## Single writes -/

/-- To raise the update sequence number in tables is to raise it in memory. -/
theorem raiseUsn_image (usn : Usn) :
    raiseUsn usn (image pos m) = .ok () (image pos (m.raiseUsn usn)) := rfl

/-- A note row that is replaced holds the note that is put. -/
theorem replaceNote_image (note : Note) :
    replaceNote note (image pos m) = .ok () (image pos (m.putNote note)) := by
  unfold replaceNote image putNote
  dsimp only
  rw [SortedMap.mapValues_insert fun _ _ => rfl]
  rfl

/-- A changed note is written as it is, as long as its time of creation is the old one. -/
theorem updateNote_image {note old : Note} (found : m.notes.get? note.id = some (.readable old))
    (created : note.createdAt = old.createdAt) :
    updateNote note (image pos m) = .ok () (image pos (m.putNote note)) := by
  have hrow : (image pos m).notes.get? note.id = some (.of old) := by
    unfold image
    dsimp only
    rw [SortedMap.get?_mapValues, found]
    rfl
  have hof : (NoteRow.of old).update note = NoteRow.of note := by
    unfold NoteRow.update NoteRow.of
    rw [created]
    rfl
  refine updateNote_eq_ok.mpr ⟨_, hrow, ?_⟩
  rw [hof]
  exact (EStateM.Result.ok.inj (replaceNote_image pos note)).2.symm

/-- A row of a note type that is written holds the note type that is put, wherever among the rows it
comes to stand. -/
theorem writeNoteType_image (nt : NoteType) :
    ∃ pos', writeNoteType nt (image pos m) = .ok () (image pos' (m.putNoteType nt)) := by
  -- the row moves to the end, so the type gets another position
  refine ⟨fun name => if name = nt.name then
    (((image pos m).noteTypes.values.map (·.position)).max?).getD 0 + 1 else pos name, ?_⟩
  unfold writeNoteType putNoteType
  unfold image
  dsimp only
  rw [SortedMap.mapValues_insert (g := fun name nt => .of nt (pos name)), if_pos rfl]
  intro name hname
  rw [if_neg hname]

/-- A new row of a deck holds the deck that is added, with the same id. -/
theorem insertDeck_image {name : String} (absent : ∀ deck ∈ m.decks.values, deck.name ≠ name) :
    insertDeck name (image pos m) =
      .ok ⟨Store.nextId m.decks, name⟩ (image pos (m.addDeck name)) := by
  have habsent : (image pos m).decks.values.contains name = false := by
    rw [← Bool.not_eq_true, List.contains_iff_mem]
    intro hmem
    obtain ⟨id, hget⟩ := SortedMap.mem_values_iff.mp hmem
    unfold image at hget
    rw [SortedMap.get?_mapValues] at hget
    obtain ⟨deck, hdeck, rfl⟩ := Option.map_eq_some_iff.mp hget
    exact absent deck (SortedMap.mem_values_iff.mpr ⟨id, hdeck⟩) rfl
  have hid : Store.nextId (image pos m).decks = Store.nextId m.decks :=
    Store.nextId_mapValues ..
  refine insertDeck_eq_ok.mpr ⟨habsent, by rw [hid], ?_⟩
  rw [hid]
  unfold image addDeck
  dsimp only
  rw [SortedMap.mapValues_insert fun _ _ => rfl]

/-! ## Cards -/

/-- The row of a card is the card's row. -/
theorem get?_cards_image (id : CardId) :
    (image pos m).cards.get? id = (m.cards.get? id).map CardRow.of :=
  SortedMap.get?_mapValues ..

theorem contains_cards_image (id : CardId) :
    (image pos m).cards.contains id = m.cards.contains id :=
  SortedMap.contains_mapValues ..

theorem contains_notes_image (id : NoteId) :
    (image pos m).notes.contains id = m.notes.contains id :=
  SortedMap.contains_mapValues ..

theorem contains_decks_image (id : DeckId) :
    (image pos m).decks.contains id = m.decks.contains id :=
  SortedMap.contains_mapValues ..

/-- To put a row under a card's id is to put the card. -/
theorem putCard_image (c : Card) :
    { image pos m with cards := (image pos m).cards.insert c.id (.of c) } =
      image pos (m.putCard c) := by
  unfold image putCard
  dsimp only
  rw [SortedMap.mapValues_insert fun _ _ => rfl]

/-- A card has a twin only if another card of its note has its identity. -/
theorem hasTwin_image {c : Card}
    (alone : ∀ id c', m.cards.get? id = some c' → c'.noteId = c.noteId →
      c'.identity ≠ c.identity) :
    (image pos m).hasTwin c.id c.noteId c.templateName c.ordinal.toNat = false := by
  refine hasTwin_eq_false.mpr fun id row hget hn hname hordinal => ?_
  rw [get?_cards_image] at hget
  obtain ⟨c', hc', rfl⟩ := Option.map_eq_some_iff.mp hget
  refine absurd ?_ (alone id c' hc' hn)
  have hordinal : c'.ordinal = c.ordinal := UInt32.toNat_inj.mp (Int.ofNat.inj hordinal)
  have hname : c'.templateName = c.templateName := hname
  rw [Card.identity, hname, hordinal, Card.identity]

/-- A card can be inserted if its id is new, no card of its note has its identity, and its note and
deck are there. -/
theorem insertCard_image {c : Card} (absent : m.cards.contains c.id = false)
    (alone : ∀ id c', m.cards.get? id = some c' → c'.noteId = c.noteId →
      c'.identity ≠ c.identity)
    (noted : m.notes.contains c.noteId = true) (housed : m.decks.contains c.deckId = true) :
    insertCard c (image pos m) = .ok () (image pos (m.putCard c)) := by
  rw [← contains_cards_image pos] at absent
  rw [← contains_notes_image pos] at noted
  rw [← contains_decks_image pos] at housed
  exact insertCard_eq_ok.mpr
    ⟨absent, hasTwin_image pos alone, noted, housed, (putCard_image pos c).symm⟩

/-- A card can be updated if it keeps its note and its identity, and its deck is there. -/
theorem updateCard_image {c c₀ : Card} (found : m.cards.get? c.id = some c₀)
    (hn : c₀.noteId = c.noteId) (hidentity : c₀.identity = c.identity)
    (housed : m.decks.contains c.deckId = true) :
    updateCard c (image pos m) = .ok () (image pos (m.putCard c)) := by
  have hget : (image pos m).cards.get? c.id = some (.of c₀) := by
    rw [get?_cards_image, found]
    rfl
  have hrow : { CardRow.of c with
      noteId := (CardRow.of c₀).noteId
      templateName := (CardRow.of c₀).templateName
      ordinal := (CardRow.of c₀).ordinal } = CardRow.of c := by
    obtain ⟨hname, hordinal⟩ := CardIdentity.mk.inj hidentity
    unfold CardRow.of
    rw [hn, hname, hordinal]
  rw [← contains_decks_image pos] at housed
  refine updateCard_eq_ok.mpr ⟨_, hget, housed, ?_⟩
  rw [hrow, putCard_image]

/-- A card is deleted in tables exactly if it is in memory, and with the same refusal. -/
theorem deleteCard_image (id : CardId) :
    deleteCard id (image pos m) =
      if m.cards.contains id then .ok () (image pos (m.dropCard id))
      else .error (.notFound .card id) (image pos m) := by
  have hreviews : (image pos m).reviews.filter (·.cardId != id) =
      (m.reviews.filter (·.1 ≠ id)).map fun e => ReviewRow.of e.1 e.2 := by
    unfold image
    rw [List.filter_map]
    congr 1
    refine List.filter_congr ?_
    intro e _
    by_cases he : e.1 = id <;> simp [ReviewRow.of, he]
  unfold deleteCard
  rw [contains_cards_image]
  split
  · rw [hreviews]
    unfold image dropCard
    dsimp only
    rw [SortedMap.mapValues_erase]
  · rfl

/-- A record in numbers is appended to the records of a card that exists. -/
theorem insertReview_image {id : CardId} {r : Review} (numeric : r.Numeric)
    (found : m.cards.contains id = true) :
    insertReview id r (image pos m) =
      .ok () (image pos { m with reviews := m.reviews ++ [(id, r)] }) := by
  rw [← contains_cards_image pos] at found
  refine insertReview_eq_ok.mpr ⟨numeric, found, ?_⟩
  unfold image
  rw [List.map_append]
  rfl

/-! ## Plans -/

/-- New cards that the tables take. -/
structure Creatable (m : Memory) (cards : List Card) : Prop where
  absent : ∀ c ∈ cards, m.cards.contains c.id = false
  alone : ∀ c ∈ cards, ∀ id c', m.cards.get? id = some c' → c'.noteId = c.noteId →
    c'.identity ≠ c.identity
  noted : ∀ c ∈ cards, m.notes.contains c.noteId = true
  housed : ∀ c ∈ cards, m.decks.contains c.deckId = true
  ids : (cards.map (·.id)).Nodup
  identities : (cards.map Card.identity).Nodup

/-- Cards that can be created are inserted one after the other. -/
theorem forM_insertCard_image {cards : List Card} (h : Creatable m cards) :
    cards.forM insertCard (image pos m) = .ok () (image pos (cards.foldl putCard m)) := by
  refine forM_along (image pos) Creatable ?_ h
  intro m c rest h
  have hc : c ∈ c :: rest := List.mem_cons_self ..
  have hrest : ∀ {c'}, c' ∈ rest → c' ∈ c :: rest := List.mem_cons_of_mem _
  obtain ⟨hid, hids⟩ := List.nodup_cons.mp h.ids
  obtain ⟨hidentity, hidentities⟩ := List.nodup_cons.mp h.identities
  refine ⟨insertCard_image pos (h.absent c hc) (h.alone c hc) (h.noted c hc) (h.housed c hc),
    ?_, ?_, fun c' hc' => h.noted c' (hrest hc'),
    fun c' hc' => h.housed c' (hrest hc'), hids, hidentities⟩
  · -- a card that was inserted takes neither the id nor the identity of a later one
    intro c' hc'
    rw [← Bool.not_eq_true, putCard, SortedMap.contains_insert]
    rintro (heq | hcontains)
    · exact hid (List.mem_map.mpr ⟨c', hc', heq⟩)
    · rw [h.absent c' (hrest hc')] at hcontains
      cases hcontains
  · intro c' hc' id c₀ hget hn
    rcases SortedMap.get?_insert_eq_some_iff.mp hget with ⟨rfl, rfl⟩ | ⟨-, hget⟩
    · intro heq
      exact hidentity (heq ▸ List.mem_map_of_mem hc')
    · exact h.alone c' (hrest hc') id c₀ hget hn

/-- Changed cards that the tables take. -/
def Updatable (m : Memory) (cards : List Card) : Prop :=
  ∀ c ∈ cards, m.decks.contains c.deckId = true ∧
    ∃ c₀, m.cards.get? c.id = some c₀ ∧ c₀.noteId = c.noteId ∧ c₀.identity = c.identity

/-- Cards that can be updated are updated one after the other. -/
theorem forM_updateCard_image {cards : List Card} (h : Updatable m cards) :
    cards.forM updateCard (image pos m) = .ok () (image pos (cards.foldl putCard m)) := by
  refine forM_along (image pos) Updatable ?_ h
  intro m c rest h
  obtain ⟨housed, c₀, found, hn, hidentity⟩ := h c (List.mem_cons_self ..)
  refine ⟨updateCard_image pos found hn hidentity housed, ?_⟩
  intro c' hc'
  obtain ⟨housed', c₁, found', hn', hidentity'⟩ := h c' (List.mem_cons_of_mem _ hc')
  refine ⟨housed', ?_⟩
  rw [putCard]
  -- a card that was updated before still has its note and identity
  by_cases hid : c'.id = c.id
  · rw [hid, found] at found'
    cases found'
    refine ⟨c, ?_, hn.symm.trans hn', hidentity.symm.trans hidentity'⟩
    rw [SortedMap.get?_insert, if_pos hid]
  · refine ⟨c₁, ?_, hn', hidentity'⟩
    rw [SortedMap.get?_insert, if_neg hid, found']

/-- Cards that exist are deleted one after the other. -/
theorem forM_deleteCard_image {ids : List CardId} (distinct : ids.Nodup)
    (found : ∀ id ∈ ids, m.cards.contains id = true) :
    ids.forM deleteCard (image pos m) = .ok () (image pos (ids.foldl dropCard m)) := by
  refine forM_along (image pos)
    (fun m ids => ids.Nodup ∧ ∀ id ∈ ids, m.cards.contains id = true) ?_ ⟨distinct, found⟩
  intro m id rest h
  obtain ⟨hid, hrest⟩ := List.nodup_cons.mp h.1
  refine ⟨?_, hrest, ?_⟩
  · rw [deleteCard_image, if_pos (h.2 id (List.mem_cons_self ..))]
  · intro id' hid'
    rw [dropCard, SortedMap.contains_erase]
    exact ⟨fun heq => hid (heq ▸ hid'), h.2 id' (List.mem_cons_of_mem _ hid')⟩

section Plan

variable {n : NoteId} {drafts : List CardDraft} {plan : ReconcilePlan}

/-- The new cards of a fitting plan. -/
theorem creatable (keyed : m.Keyed) (fit : m.IsFit n drafts plan)
    (noted : m.notes.contains n = true)
    (housed : ∀ c ∈ plan.toCreate, m.decks.contains c.deckId = true) :
    Creatable m plan.toCreate := by
  -- new cards are of the note and have no stored card of their identity
  have hnew : ∀ c ∈ plan.toCreate, c.noteId = n ∧ ∀ c' ∈ m.cardsOf n, c'.identity ≠ c.identity := by
    intro c hc
    obtain ⟨nt, ctx, rfl, rfl⟩ := fit
    obtain ⟨id, d, hd, rfl⟩ := Reconcile.mem_toCreate _ _ _ _ _ hc
    exact ⟨rfl, (Reconcile.mem_fresh.mp hd).2⟩
  refine ⟨?_, ?_, ?_, housed, ?_, ?_⟩
  · intro c hc
    rw [← Bool.not_eq_true, SortedMap.contains_iff]
    rintro ⟨c', hget⟩
    refine Int.ne_of_lt (fit.toCreate_fresh hc (holds_of_get? keyed hget)) ?_
    exact keyed _ _ hget
  · intro c hc id c' hget hn
    obtain ⟨hn', hidentity⟩ := hnew c hc
    exact hidentity c' ((mem_cardsOf keyed).mpr ⟨holds_of_get? keyed hget, hn.trans hn'⟩)
  · intro c hc
    rw [(hnew c hc).1]
    exact noted
  · have hwritten := fit.nodup_written keyed
    rw [List.map_append] at hwritten
    exact (List.nodup_append.mp hwritten).1
  · obtain ⟨nt, ctx, rfl, rfl⟩ := fit
    have hids := Reconcile.nodup_identities_outcome drafts nt ctx
      (.startingAt (Store.nextId m.cards)) (nodup_ids_cardsOf keyed ctx.noteId)
    rw [ReconcilePlan.outcome, List.map_append] at hids
    exact (List.nodup_append.mp hids).2.1

/-- The changed cards of a fitting plan, once the new ones are written. -/
theorem updatable (keyed : m.Keyed) (fit : m.IsFit n drafts plan)
    (housed : ∀ c ∈ plan.toUpdate, m.decks.contains c.deckId = true) :
    Updatable (plan.toCreate.foldl putCard m) plan.toUpdate := by
  intro c hc
  rw [foldl_putCard]
  refine ⟨housed c hc, ?_⟩
  dsimp only
  -- none of the new cards takes the place of an old one
  have hwritten := fit.nodup_written keyed
  have hold := @IsFit.find?_toCreate m n drafts plan fit
  obtain ⟨nt, ctx, rfl, rfl⟩ := fit
  obtain ⟨c₀, hc₀, d, rfl⟩ := Reconcile.mem_toUpdate _ _ _ _ _ hc
  obtain ⟨hholds, -⟩ := (mem_cardsOf keyed).mp hc₀
  refine ⟨c₀, ?_, rfl, rfl⟩
  rw [List.map_append] at hwritten
  rw [get?_foldl_insert (List.nodup_append.mp hwritten).1]
  show (List.find? (·.id = c₀.id) _).or (m.cards.get? c₀.id) = some c₀
  rw [hold hholds, Option.none_or]
  exact hholds

/-- **The tables take a fitting plan**, and hold what the collection in memory then holds. -/
theorem writePlan_image (keyed : m.Keyed) (fit : m.IsFit n drafts plan)
    (noted : m.notes.contains n = true)
    (housed : ∀ c ∈ plan.toCreate ++ plan.toUpdate, m.decks.contains c.deckId = true) :
    writePlan plan (image pos m) = .ok () (image pos (m.writePlan plan)) := by
  have hcreate := forM_insertCard_image pos
    (creatable keyed fit noted fun c hc => housed c (List.mem_append_left _ hc))
  have hupdate := forM_updateCard_image pos
    (updatable keyed fit fun c hc => housed c (List.mem_append_right _ hc))
  -- the cards to delete are still there, as writing takes none away
  have hdelete := forM_deleteCard_image pos
    (m := plan.toUpdate.foldl putCard (plan.toCreate.foldl putCard m)) (fit.nodup_toDelete keyed)
    fun id hid => contains_foldl_putCard (contains_foldl_putCard
      (SortedMap.mem_keys_iff_contains.mp (fit.mem_keys_of_touched keyed (Or.inl hid))))
  rw [writePlan, Store.carryOut, bind_eq_of_ok hcreate, bind_eq_of_ok hupdate,
    bind_eq_of_ok hdelete, Memory.writePlan, List.foldl_append]
  cases plan.isNoop <;> rfl

end Plan

/-- An update that succeeds as a whole. -/
theorem transaction_eq_ok {α : Type} {update : Update Tables α} {t t' : Tables} {a : α}
    (h : update t = .ok a t') : transaction update t = .ok a t' := by
  unfold transaction
  rw [h]

end Tables

end Flashcard
