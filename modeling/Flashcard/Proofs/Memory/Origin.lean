import Flashcard.Proofs.Memory.History

/-!
# Where cards come from

A card that is there after a change was there before it, as it is or with another content, another
mark or another state, or it is a new one under an id that was free. Only answers move the state of
a card that is there, and they record what they did.

- `Operation.defaultDeck?`, `Operation.scheduler?`: what an operation is given.
- `Memory.Offers`: the decks that a new card can be put into.
- `Memory.FitOrigin`, `Memory.fitOrigin`: the cards that a fitting plan leaves.
- `Memory.Origin`, `Memory.origin`: the cards that a single change leaves.
-/

namespace Flashcard

namespace Collection.Operation

/-- The default deck that an operation is given. -/
def defaultDeck? : Operation → Option DeckId
  | .updateNote _ change => some change.defaultDeck
  | .editNoteType _ _ _ options | .regenerate _ _ options => some options.defaultDeck
  | _ => none

/-- The scheduler that an operation is given. -/
def scheduler? : Operation → Option Scheduler
  | .addNote scheduler _ | .updateNote scheduler _ | .editNoteType scheduler _ _ _
  | .regenerate scheduler _ _ | .answerCard scheduler _ => some scheduler
  | _ => none

end Collection.Operation

/-- Whether a card is a later version of another one: the same card of the same note, in the same
deck. -/
structure Card.SameAs (c' c : Card) : Prop where
  id_eq : c'.id = c.id
  noteId_eq : c'.noteId = c.noteId
  identity_eq : c'.identity = c.identity
  deckId_eq : c'.deckId = c.deckId

theorem Card.SameAs.refl (c : Card) : c.SameAs c := ⟨rfl, rfl, rfl, rfl⟩

theorem Card.SameAs.trans {c₁ c₂ c₃ : Card} (h : c₁.SameAs c₂) (h' : c₂.SameAs c₃) : c₁.SameAs c₃ :=
  ⟨h.id_eq.trans h'.id_eq, h.noteId_eq.trans h'.noteId_eq, h.identity_eq.trans h'.identity_eq,
    h.deckId_eq.trans h'.deckId_eq⟩

namespace Memory

open Collection

variable {op : Operation} {m m' : Memory} {c' : Card}

/-! ## Decks -/

/-- No change takes a deck away. -/
theorem contains_decks_change (hchange : Change op m m') {id : DeckId}
    (h : m.decks.contains id = true) : m'.decks.contains id = true := by
  cases hchange with
  | stockType _ _ | answer _ _ | flags _ | deletion _ => exact h
  | stockDeck _ | newDeck _ => exact SortedMap.contains_insert.mpr (Or.inr h)
  | newNote _ _ _ _ | noteChange _ _ _ _ =>
    rw [decks_writeNote]
    exact h
  | edit _ _ =>
    rw [decks_writeNoteType]
    exact h
  | editedCards refit | newCards refit =>
    cases refit
    rw [decks_writePlan]
    exact h

/-- Deck ids by name are ids of decks that are there. -/
theorem contains_of_deckIds (sound : Sound m) {name : String} {id : DeckId}
    (h : m.deckIds.get? name = some id) : m.decks.contains id = true := by
  obtain ⟨deck, hdeck, heq⟩ := List.mem_map.mp (SortedMap.mem_of_get?_ofList h)
  cases heq
  obtain ⟨key, hget⟩ := SortedMap.mem_values_iff.mp hdeck
  rw [sound.decks key deck hget]
  exact SortedMap.contains_iff.mpr ⟨deck, hget⟩

/-- The decks that a new card can be put into: those that are there, those of other cards, and the
default deck, if there is one. -/
inductive Offers (m : Memory) (defaultDeck? : Option DeckId) (id : DeckId) : Prop where
  | stored (h : m.decks.contains id = true)
  | ofCard {c : Card} (held : m.Holds c) (deckId_eq : c.deckId = id)
  | default (h : defaultDeck? = some id)

/-- Where cards have decks and the default deck is there, so is the deck of a new card. -/
theorem Offers.contains {defaultDeck? : Option DeckId} {id : DeckId}
    (offered : m.Offers defaultDeck? id)
    (housed : ∀ c, m.Holds c → m.decks.contains c.deckId = true)
    (given : ∀ id ∈ defaultDeck?, m.decks.contains id = true) : m.decks.contains id = true := by
  cases offered with
  | stored h => exact h
  | ofCard held deckId_eq => exact deckId_eq ▸ housed _ held
  | default h => exact given id h

/-! ## Fitting plans -/

section Fit

variable {r : Regenerator} {nt : NoteType} {note : Note}

/-- Where a card comes from that a plan leaves. -/
inductive FitOrigin (r : Regenerator) (m : Memory) (c' : Card) : Prop where
  | kept (held : m.Holds c')
  | refreshed {c : Card} {front back : String} (held : m.Holds c)
      (card_eq : c' = { c with front, back, usn := r.usn })
  | new (above : ∀ c, m.Holds c → c.id < c'.id)
      (scheduling_eq : c'.scheduling = r.scheduler.newCard r.now)
      (deck : m.Offers (some r.defaultDeck) c'.deckId)

theorem offers_deckFor (sound : Sound m) (decks_eq : r.decks = m.deckIds) (n : NoteId)
    (templateName : String) :
    m.Offers (some r.defaultDeck)
      (Reconcile.deckFor nt (r.context n (m.cardsOf n)) templateName) := by
  rcases r.deckFor_cases nt n (m.cardsOf n) templateName with
    ⟨name, hget⟩ | ⟨c, hc, hdeck⟩ | hdefault
  · exact .stored (contains_of_deckIds sound (decks_eq ▸ hget))
  · exact .ofCard ((mem_cardsOf sound.keyed).mp hc).1 hdeck
  · exact .default (congrArg some hdefault)

/-- The cards that a fitting plan leaves were there, with this content or another, or are new. -/
theorem fitOrigin (sound : Sound m) (decks_eq : r.decks = m.deckIds)
    (h : (m.writePlan (r.fit nt note (m.cardsOf note.id) (Store.nextId m.cards))).Holds c') :
    FitOrigin r m c' := by
  have keyed := sound.keyed
  have fit := isFit_fit r nt note m
  rcases fit.of_holds_writePlan keyed h with ⟨-, hc⟩ | hc
  · exact .kept hc
  rcases (Reconcile.mem_outcome _ nt (r.context note.id (m.cardsOf note.id))
    (.startingAt (Store.nextId m.cards)) (nodup_ids_cardsOf keyed note.id)).mp hc with
    ⟨p, hp, rfl⟩ | hnew
  · have hmem := (Reconcile.mem_kept (Reconcile.mem_matched.mp hp).2.1).1
    have held : m.Holds p.1 := ((mem_cardsOf keyed).mp hmem).1
    unfold Reconcile.settle
    split
    · exact .kept held
    · exact .refreshed held rfl
  · have above : ∀ c, m.Holds c → c.id < c'.id := fun c hc => fit.toCreate_fresh hnew hc
    obtain ⟨id, d, -, rfl⟩ := Reconcile.mem_toCreate _ _ _ _ _ hnew
    exact .new above rfl (offers_deckFor sound decks_eq note.id d.templateName)

/-- A card that a fitting plan leaves keeps its reviews. -/
theorem reviewsOf_of_holds_writePlan {n : NoteId} {drafts : List CardDraft} {plan : ReconcilePlan}
    (keyed : m.Keyed) (fit : m.IsFit n drafts plan) (h : (m.writePlan plan).Holds c') :
    (m.writePlan plan).reviewsOf c'.id = m.reviewsOf c'.id := by
  refine reviewsOf_writePlan fun hdel => ?_
  rw [Holds, get?_writePlan (fit.nodup_written keyed), if_pos hdel] at h
  cases h

end Fit

/-! ## Single changes -/

/-- Where a card comes from that is there after a change. -/
inductive Origin (op : Operation) (m m' : Memory) (c' : Card) : Prop where
  | kept {c : Card} (held : m.Holds c) (same : c'.SameAs c)
      (scheduling_eq : c'.scheduling = c.scheduling)
      (reviews_eq : m'.reviewsOf c'.id = m.reviewsOf c.id)
  | answered {scheduler : Scheduler} {answer : Answer} {c : Card} {review : Review}
      (op_eq : op = .answerCard scheduler answer) (held : m.Holds c) (same : c'.SameAs c)
      (answered : scheduler.answer? c.scheduling answer.rating answer.now =
        some (c'.scheduling, review))
      (reviews_eq : m'.reviewsOf c'.id =
        m.reviewsOf c.id ++ [{ review with timeTakenMs := answer.timeTakenMs }])
  | new {scheduler : Scheduler} {now : Timestamp} (scheduler_eq : op.scheduler? = some scheduler)
      (no_answer : ∀ scheduler answer, op ≠ .answerCard scheduler answer)
      (above : ∀ c, m.Holds c → c.id < c'.id)
      (scheduling_eq : c'.scheduling = scheduler.newCard now)
      (deck : m.Offers op.defaultDeck? c'.deckId)
      (reviews_eq : m'.reviewsOf c'.id = m.reviewsOf c'.id)

/-- Where the cards and reviews stay, the cards are those that were there. -/
theorem Origin.of_eq (hcards : m'.cards = m.cards) (hreviews : m'.reviews = m.reviews)
    (h : m'.Holds c') : Origin op m m' c' := by
  rw [Holds, hcards] at h
  refine .kept h (.refl c') rfl ?_
  rw [reviewsOf, hreviews, reviewsOf]

theorem Origin.of_fit {r : Regenerator} {nt : NoteType} {note : Note} (sound : Sound m)
    (decks_eq : r.decks = m.deckIds) (scheduler_eq : op.scheduler? = some r.scheduler)
    (no_answer : ∀ scheduler answer, op ≠ .answerCard scheduler answer)
    (deck : ∀ id, m.Offers (some r.defaultDeck) id → m.Offers op.defaultDeck? id)
    (hcards : m'.cards =
      (m.writePlan (r.fit nt note (m.cardsOf note.id) (Store.nextId m.cards))).cards)
    (hreviews : m'.reviews =
      (m.writePlan (r.fit nt note (m.cardsOf note.id) (Store.nextId m.cards))).reviews)
    (h : m'.Holds c') : Origin op m m' c' := by
  rw [Holds, hcards] at h
  have hkept : m'.reviewsOf c'.id = m.reviewsOf c'.id := by
    rw [← reviewsOf_of_holds_writePlan sound.keyed (isFit_fit r nt note m) h, reviewsOf, hreviews,
      reviewsOf]
  cases fitOrigin sound decks_eq h with
  | kept held => exact .kept held (.refl c') rfl hkept
  | refreshed held card_eq =>
    subst card_eq
    exact .kept held ⟨rfl, rfl, rfl, rfl⟩ rfl hkept
  | new above scheduling_eq offered =>
    exact .new scheduler_eq no_answer above scheduling_eq (deck _ offered) hkept

theorem Origin.of_refit {scheduler : Scheduler} {typeName : String} {options : RegenerationOptions}
    (sound : Sound m) (scheduler_eq : op.scheduler? = some scheduler)
    (no_answer : ∀ scheduler answer, op ≠ .answerCard scheduler answer)
    (deck_eq : op.defaultDeck? = some options.defaultDeck)
    (hrefit : Refit scheduler typeName options m m') (h : m'.Holds c') : Origin op m m' c' := by
  cases hrefit with
  | fit hscheduler hdeck _ decks_eq =>
    refine .of_fit sound decks_eq (hscheduler ▸ scheduler_eq) no_answer ?_ rfl rfl h
    rw [hdeck, deck_eq]
    exact fun _ => id

/-- **The cards after a change** were there, moved on by an answer if their state is another, or are
new ones. -/
theorem origin (sound : Sound m) (hchange : Change op m m') (h : m'.Holds c') :
    Origin op m m' c' := by
  cases hchange with
  | stockType _ _ | stockDeck _ | newDeck _ => exact .of_eq rfl rfl h
  | @newNote scheduler new nt note _ _ _ deck note_eq =>
    have hid : note.id = Store.nextId m.notes := note_eq ▸ rfl
    rw [← cardsOf_nextId sound, ← hid] at h ⊢
    obtain ⟨hcards, hreviews⟩ := cards_writeNote note
      ((m.regenerator scheduler new.deck new.now).fit nt note (m.cardsOf note.id)
        (Store.nextId m.cards)) m
    refine .of_fit sound rfl rfl nofun ?_ hcards hreviews h
    -- the deck of a new note was looked up, so it needs no default deck
    intro id offered
    cases offered with
    | stored hstored => exact .stored hstored
    | ofCard held deckId_eq => exact .ofCard held deckId_eq
    | default heq => exact .stored (Option.some.inj heq ▸ deck)
  | @noteChange scheduler change nt _ note _ _ _ _ _ =>
    obtain ⟨hcards, hreviews⟩ := cards_writeNote note
      ((m.regenerator scheduler change.defaultDeck change.now).fit nt note (m.cardsOf note.id)
        (Store.nextId m.cards)) m
    exact .of_fit sound rfl rfl nofun (fun _ => id) hcards hreviews h
  | edit _ _ => exact .of_eq (cards_writeNoteType ..) (reviews_writeNoteType ..) h
  | editedCards refit | newCards refit => exact .of_refit sound rfl nofun rfl refit h
  | @answer scheduler answer c next review _ found answered =>
    have held := holds_of_get? sound.keyed found
    have hid : c.id = answer.cardId := sound.keyed _ _ found
    rcases holds_putCard.mp h with rfl | ⟨hne, h⟩
    · refine .answered rfl held ⟨rfl, rfl, rfl, rfl⟩ answered ?_
      rw [reviewsOf_writeAnswer, if_pos hid]
    · refine .kept h (.refl c') rfl ?_
      rw [reviewsOf_writeAnswer, if_neg (hid ▸ hne)]
  | @flags _ _ c _ found =>
    have held := holds_of_get? sound.keyed found
    rcases holds_putCard.mp h with rfl | ⟨-, h⟩
    · exact .kept held ⟨rfl, rfl, rfl, rfl⟩ rfl rfl
    · exact .kept h (.refl c') rfl rfl
  | deletion _ =>
    obtain ⟨hne, h⟩ := holds_dropCard.mp h
    exact .kept h (.refl c') rfl (reviewsOf_dropCard hne)

end Memory

end Flashcard
