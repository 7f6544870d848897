import Flashcard.Proofs.Reconcile
import Flashcard.Proofs.Tables.Constraints

/-!
# Plans that tables accept

Tables whose constraints hold and whose cards can be read take every plan that is made for a note
from what they hold: no write of it is refused. New cards come under free ids, take no identity that
another card of the note has, and go to decks that are there; and all of this still holds when their
turn comes. So a change of a note goes through, and so does making its cards anew.

- `Tables.readCards`: the cards of a note, as they are read.
- `Tables.Ready`: plans, or what is left of them, that tables take, write by write.
- `Tables.Serves`, `Tables.Serves.ready_fit`: plans made from what the tables hold.
- `Tables.Excused`: batches without failures that are the tables' doing.

## Main statements

- `Tables.own_plans_accepted`: plans for notes, changes of notes and batches go through.
-/

namespace Flashcard

namespace Tables

open Collection

variable {t t' : Tables} {n : NoteId} {id : CardId} {row : CardRow} {c : Card}

/-! ## Cards as they are read -/

/-- The cards of a note, as they are read. -/
def readCards (t : Tables) (n : NoteId) : List Card :=
  (t.cards.entries.filter (·.2.noteId == n)).filterMap fun row => (row.2.decode row.1).toOption

/-- A number that fits its column is read as it is. -/
theorem CardRow.ordinal_decode (hcheck : row.check = .ok ()) (hdecode : row.decode id = .ok c) :
    (c.ordinal.toNat : Int) = row.ordinal := by
  have hrange := (CardRow.check_eq_ok.mp hcheck).1
  rw [(CardRow.decode_eq_ok hdecode).2.2.2.2.1]
  unfold checkRange at hrange
  split at hrange
  · next hlimits =>
    rw [UInt32.toNat_ofNat']
    omega
  · cases hrange

theorem mem_readCards :
    c ∈ t.readCards n ↔
      ∃ row, t.cards.get? c.id = some row ∧ row.noteId = n ∧ row.decode c.id = .ok c := by
  rw [readCards, List.mem_filterMap]
  constructor
  · rintro ⟨⟨id, row⟩, hmem, hread⟩
    obtain ⟨hmem, hn⟩ := List.mem_filter.mp hmem
    have hdecode : row.decode id = .ok c := toOption_eq_some.mp hread
    obtain rfl := CardRow.id_decode hdecode
    exact ⟨row, SortedMap.get?_eq_some_iff.mpr hmem, beq_iff_eq.mp hn, hdecode⟩
  · rintro ⟨row, hget, hn, hdecode⟩
    refine ⟨(c.id, row), List.mem_filter.mpr ⟨SortedMap.get?_eq_some_iff.mp hget,
      beq_iff_eq.mpr hn⟩, ?_⟩
    show (row.decode c.id).toOption = some c
    rw [hdecode]
    rfl

theorem nodup_ids_readCards (t : Tables) (n : NoteId) : ((t.readCards n).map (·.id)).Nodup := by
  refine List.pairwise_map.mpr (List.pairwise_filterMap.mpr ?_)
  refine (t.cards.ascending.filter _).imp ?_
  intro a b hlt c hc c' hc' heq
  -- ids are the keys of the rows, which ascend
  have hid := CardRow.id_decode (toOption_eq_some.mp hc)
  have hid' := CardRow.id_decode (toOption_eq_some.mp hc')
  rw [← hid, ← hid', heq] at hlt
  simp at hlt

theorem contains_of_mem_readCards (hc : c ∈ t.readCards n) : t.cards.contains c.id = true := by
  obtain ⟨row, hget, -⟩ := mem_readCards.mp hc
  exact SortedMap.contains_iff.mpr ⟨row, hget⟩

/-- Each row for a card of a note is read as one of its cards. -/
theorem LegibleNote.reads (h : t.LegibleNote n) (hget : t.cards.get? id = some row)
    (hn : row.noteId = n) :
    ∃ c ∈ t.readCards n, c.templateName = row.templateName ∧ (c.ordinal.toNat : Int) = row.ordinal := by
  obtain ⟨hcheck, c, hdecode⟩ := h id row hget hn
  obtain rfl := CardRow.id_decode hdecode
  exact ⟨c, mem_readCards.mpr ⟨row, hget, hn, hdecode⟩, (CardRow.decode_eq_ok hdecode).2.2.2.1,
    CardRow.ordinal_decode hcheck hdecode⟩

theorem Constrained.housed_readCards (h : Constrained t) (hc : c ∈ t.readCards n) :
    t.decks.contains c.deckId = true := by
  obtain ⟨row, hget, -, hdecode⟩ := mem_readCards.mp hc
  rw [(CardRow.decode_eq_ok hdecode).2.2.1]
  exact h.housed c.id row hget

/-- What is read of a card is finite. -/
theorem finite_of_mem_readCards (hc : c ∈ t.readCards n) : c.scheduling.Finite := by
  obtain ⟨_, -, -, hdecode⟩ := mem_readCards.mp hc
  obtain ⟨-, -, -, -, -, s, hread⟩ := CardRow.decode_eq_ok hdecode
  exact finite_readState hread

/-- The cards of a note are read row by row. -/
theorem LegibleNote.cardsOfNote_eq (h : t.LegibleNote n) :
    store.cardsOfNote n t = .ok (t.readCards n) := by
  have hrows : ∀ e ∈ t.cards.entries.filter (·.2.noteId == n),
      e.2.check = .ok () ∧ ∃ c, e.2.decode e.1 = .ok c := by
    intro e he
    obtain ⟨hmem, hn⟩ := List.mem_filter.mp he
    exact h e.1 e.2 (SortedMap.get?_eq_some_iff.mpr hmem) (beq_iff_eq.mp hn)
  have hcheck : (t.cards.entries.filter (·.2.noteId == n)).forM (fun e => e.2.check) = .ok () :=
    forM_eq_ok fun e he => (hrows e he).1
  show CardRow.decodeAll (t.cards.entries.filter (·.2.noteId == n)) = _
  unfold CardRow.decodeAll
  rw [hcheck]
  exact mapM_eq_filterMap fun e he => (hrows e he).2

/-! ## Plans that are taken -/

/-- What a plan, or what is left of it, has to be like for the tables to take it. -/
structure Ready (t : Tables) (create update : List Card) (delete : List CardId) : Prop where
  absent : ∀ c ∈ create, t.cards.contains c.id = false
  /-- No card has the identity of a new one. -/
  alone : ∀ c ∈ create, ∀ id row, t.cards.get? id = some row → row.noteId = c.noteId →
    row.templateName = c.templateName → row.ordinal ≠ c.ordinal.toNat
  ids : (create.map (·.id)).Nodup
  identities : (create.map Card.identity).Nodup
  noted : ∀ c ∈ create, t.notes.contains c.noteId = true
  housed : ∀ c ∈ create ++ update, t.decks.contains c.deckId = true
  updated : ∀ c ∈ update, t.cards.contains c.id = true
  deleted : ∀ id ∈ delete, t.cards.contains id = true
  distinct : delete.Nodup

namespace Ready

variable {create update : List Card} {delete : List CardId}

/-- A new card is taken, and takes nothing that a later one needs. -/
theorem insertCard (h : Ready t (c :: create) update delete) :
    ∃ t', insertCard c t = .ok () t' ∧ Ready t' create update delete := by
  have hc : c ∈ c :: create := List.mem_cons_self ..
  have hrest : ∀ {c'}, c' ∈ create → c' ∈ c :: create := List.mem_cons_of_mem _
  obtain ⟨hid, hids⟩ := List.nodup_cons.mp h.ids
  obtain ⟨hidentity, hidentities⟩ := List.nodup_cons.mp h.identities
  have htwin : t.hasTwin c.id c.noteId c.templateName c.ordinal.toNat = false :=
    hasTwin_eq_false.mpr fun id row hget hn hname hordinal =>
      absurd hordinal (h.alone c hc id row hget hn hname)
  have hkept : ∀ {id}, t.cards.contains id = true →
      (t.cards.insert c.id (.of c)).contains id = true :=
    fun hcontains => SortedMap.contains_insert.mpr (Or.inr hcontains)
  refine ⟨_, insertCard_eq_ok.mpr ⟨h.absent c hc, htwin, h.noted c hc,
    h.housed c (List.mem_append_left _ hc), rfl⟩, ?_, ?_, hids, hidentities,
    fun c' hc' => h.noted c' (hrest hc'), fun c' hc' => h.housed c' (List.mem_cons_of_mem _ hc'),
    fun c' hc' => hkept (h.updated c' hc'), fun id hid => hkept (h.deleted id hid), h.distinct⟩
  · intro c' hc'
    rw [← Bool.not_eq_true, SortedMap.contains_insert]
    rintro (heq | hcontains)
    · exact hid (List.mem_map.mpr ⟨c', hc', heq⟩)
    · rw [h.absent c' (hrest hc')] at hcontains
      cases hcontains
  · intro c' hc' id row hget hn hname hordinal
    rcases SortedMap.get?_insert_eq_some_iff.mp hget with ⟨-, rfl⟩ | ⟨-, hget⟩
    · -- the row is that of the card just written, whose identity is not that of a later one
      have hnumber : c.ordinal = c'.ordinal := UInt32.toNat_inj.mp (Int.ofNat.inj hordinal)
      have hsame : c'.identity = c.identity := by
        rw [Card.identity, ← hnumber, ← hname, Card.identity]
        rfl
      exact hidentity (hsame ▸ List.mem_map_of_mem hc')
    · exact h.alone c' (hrest hc') id row hget hn hname hordinal

/-- A changed card is taken, and nothing goes with it. -/
theorem updateCard (h : Ready t [] (c :: update) delete) :
    ∃ t', updateCard c t = .ok () t' ∧ Ready t' [] update delete := by
  have hc : c ∈ c :: update := List.mem_cons_self ..
  obtain ⟨row, hget⟩ := SortedMap.contains_iff.mp (h.updated c hc)
  refine ⟨_, updateCard_eq_ok.mpr ⟨row, hget, h.housed c hc, rfl⟩, List.forall_mem_nil _,
    List.forall_mem_nil _, .nil, .nil, List.forall_mem_nil _,
    fun c' hc' => h.housed c' (List.mem_cons_of_mem _ hc'), ?_, ?_, h.distinct⟩
  · exact fun c' hc' =>
      SortedMap.contains_insert.mpr (Or.inr (h.updated c' (List.mem_cons_of_mem _ hc')))
  · exact fun id hid => SortedMap.contains_insert.mpr (Or.inr (h.deleted id hid))

/-- A card goes, and leaves those that are yet to go. -/
theorem deleteCard (h : Ready t [] [] (id :: delete)) :
    ∃ t', deleteCard id t = .ok () t' ∧ Ready t' [] [] delete := by
  obtain ⟨hid, hdistinct⟩ := List.nodup_cons.mp h.distinct
  refine ⟨_, deleteCard_eq_ok.mpr ⟨h.deleted id (List.mem_cons_self ..), rfl⟩,
    List.forall_mem_nil _, List.forall_mem_nil _, .nil, .nil, List.forall_mem_nil _,
    List.forall_mem_nil _, List.forall_mem_nil _, ?_, hdistinct⟩
  intro id' hid'
  exact SortedMap.contains_erase.mpr
    ⟨fun heq => hid (heq ▸ hid'), h.deleted id' (List.mem_cons_of_mem _ hid')⟩

end Ready

/-- Writes that are taken one by one are taken one after the other. -/
theorem forM_done {α : Type} {write : α → Update Tables Unit} (ready : Tables → List α → Prop)
    (step : ∀ {t a rest}, ready t (a :: rest) → ∃ t', write a t = .ok () t' ∧ ready t' rest)
    {l : List α} (h : ready t l) : ∃ t', l.forM write t = .ok () t' ∧ ready t' [] := by
  induction l generalizing t with
  | nil => exact ⟨t, rfl, h⟩
  | cons a rest ih =>
    obtain ⟨t₁, hwrite, hrest⟩ := step h
    obtain ⟨t₂, hwrites, hdone⟩ := ih hrest
    rw [List.forM_eq_forM] at hwrites ⊢
    rw [List.forM_cons]
    exact ⟨t₂, done_bind.mpr ⟨(), t₁, hwrite, hwrites⟩, hdone⟩

theorem Ready.writePlan {plan : ReconcilePlan}
    (h : Ready t plan.toCreate plan.toUpdate plan.toDelete) :
    ∃ t', writePlan plan t = .ok () t' := by
  obtain ⟨t₁, hcreate, h₁⟩ :=
    forM_done (fun t create => Ready t create plan.toUpdate plan.toDelete) insertCard h
  obtain ⟨t₂, hupdate, h₂⟩ :=
    forM_done (fun t update => Ready t [] update plan.toDelete) updateCard h₁
  obtain ⟨t₃, hdelete, -⟩ := forM_done (fun t delete => Ready t [] [] delete) deleteCard h₂
  have hmark : ∃ t₄, (if plan.isNoop then pure () else raiseUsn plan.usn : Update Tables Unit) t₃ =
      .ok () t₄ := by
    split
    · exact ⟨t₃, rfl⟩
    · exact ⟨_, rfl⟩
  obtain ⟨t₄, hmark⟩ := hmark
  exact ⟨t₄, done_bind.mpr ⟨(), t₁, hcreate, done_bind.mpr ⟨(), t₂, hupdate,
    done_bind.mpr ⟨(), t₃, hdelete, hmark⟩⟩⟩⟩

/-! ## Plans from what the tables hold -/

theorem deckNames_congr (h : t'.decks = t.decks) : store.deckNames t' = store.deckNames t := by
  have hlist : store.decks t' = store.decks t := by
    show deckList t' = deckList t
    rw [deckList, h, deckList]
  unfold Store.deckNames
  rw [hlist]

/-- Deck ids by name are ids of decks that are there. -/
theorem contains_of_deckNames {decks : SortedMap String DeckId}
    (named : store.deckNames t = .ok decks) {name : String} {id : DeckId}
    (hget : decks.get? name = some id) : t.decks.contains id = true := by
  have hdecks : SortedMap.ofList ((t.decks.entries.map fun row => (⟨row.1, row.2⟩ : Deck)).map
      fun deck => (deck.name, deck.id)) = decks := Except.ok.inj named
  subst hdecks
  obtain ⟨deck, hdeck, heq⟩ := List.mem_map.mp (SortedMap.mem_of_get?_ofList hget)
  obtain ⟨row, hrow, rfl⟩ := List.mem_map.mp hdeck
  cases heq
  exact SortedMap.contains_iff.mpr ⟨row.2, SortedMap.get?_eq_some_iff.mpr hrow⟩

/-- Tables whose constraints hold, with what the plans of a regenerator rely on. -/
structure Serves (t : Tables) (r : Regenerator) : Prop where
  constrained : Constrained t
  named : store.deckNames t = .ok r.decks
  deck : t.decks.contains r.defaultDeck = true

section Fit

variable {r : Regenerator} {nt : NoteType} {note : Note}

/-- There is a plan for a note of the type, unless no id is left for a new card. -/
theorem LegibleNote.plan_eq (h : t.LegibleNote note.id) (hname : nt.name = note.typeName) :
    r.plan store nt note t =
      if Store.nextId t.cards ≤ lastId then
        .ok (r.fit nt note (t.readCards note.id) (Store.nextId t.cards))
      else .error (.store (.backend .idsExhausted)) := by
  have hcompile : compile (.only nt) note.typeName note.fields = .ok (nt.drafts note.fields) :=
    compile_only_eq_ok.mpr ⟨hname, rfl⟩
  have hfirst : store.nextCardId t = if Store.nextId t.cards ≤ lastId
      then .ok (Store.nextId t.cards) else .error (.backend .idsExhausted) := rfl
  unfold Regenerator.plan
  rw [hcompile, h.cardsOfNote_eq, hfirst]
  by_cases hid : Store.nextId t.cards ≤ lastId
  · rw [if_pos hid, if_pos hid]
    rfl
  · rw [if_neg hid, if_neg hid]
    rfl

/-- A new card comes under a free id. -/
theorem absent_fit (t : Tables) (r : Regenerator) (nt : NoteType) (note : Note)
    (hc : c ∈ (r.fit nt note (t.readCards note.id) (Store.nextId t.cards)).toCreate) :
    t.cards.contains c.id = false := by
  rw [← Bool.not_eq_true, ← SortedMap.mem_keys_iff_contains]
  intro hkey
  have hlt := Store.lt_nextId hkey
  have hle : max (Store.nextId t.cards) 1 ≤ c.id := Reconcile.le_id_of_mem_toCreate _ _ _ _ _ hc
  omega

/-- A new card has an identity that no card has. -/
theorem LegibleNote.alone_fit (h : t.LegibleNote note.id)
    (hc : c ∈ (r.fit nt note (t.readCards note.id) (Store.nextId t.cards)).toCreate)
    (hget : t.cards.get? id = some row) (hn : row.noteId = c.noteId)
    (hname : row.templateName = c.templateName) : row.ordinal ≠ c.ordinal.toNat := by
  intro hordinal
  obtain ⟨id', d, hd, rfl⟩ := Reconcile.mem_toCreate _ _ _ _ _ hc
  -- a row of the identity would be read as a card that the draft is for
  obtain ⟨c₀, hc₀, hname₀, hordinal₀⟩ := h.reads hget hn
  refine (Reconcile.mem_fresh.mp hd).2 c₀ hc₀ ?_
  have hnumber : c₀.ordinal = d.ordinal :=
    UInt32.toNat_inj.mp (Int.ofNat.inj (hordinal₀.trans hordinal))
  rw [Card.identity, hname₀, hname, hnumber]
  rfl

namespace Serves

/-- New and changed cards are in decks that are there. -/
theorem housed_fit (h : t.Serves r)
    (hc : c ∈ (r.fit nt note (t.readCards note.id) (Store.nextId t.cards)).toCreate ++
      (r.fit nt note (t.readCards note.id) (Store.nextId t.cards)).toUpdate) :
    t.decks.contains c.deckId = true := by
  rcases List.mem_append.mp hc with hc | hc
  · obtain ⟨id', d, -, rfl⟩ := Reconcile.mem_toCreate _ _ _ _ _ hc
    show t.decks.contains (Reconcile.deckFor nt (r.context note.id (t.readCards note.id))
      d.templateName) = true
    rcases r.deckFor_cases nt note.id (t.readCards note.id) d.templateName with
      ⟨name, hget⟩ | ⟨c₀, hc₀, hdeck⟩ | hdefault
    · exact contains_of_deckNames h.named hget
    · exact hdeck ▸ h.constrained.housed_readCards hc₀
    · exact hdefault ▸ h.deck
  · obtain ⟨c₀, hc₀, d, rfl⟩ := Reconcile.mem_toUpdate _ _ _ _ _ hc
    exact h.constrained.housed_readCards (c := c₀) hc₀

/-- **Plans made from what the tables hold** are such that the tables take them. -/
theorem ready_fit (h : t.Serves r) (legible : t.LegibleNote note.id) (nt : NoteType)
    (stored : t.notes.contains note.id = true) :
    let plan := r.fit nt note (t.readCards note.id) (Store.nextId t.cards)
    Ready t plan.toCreate plan.toUpdate plan.toDelete := by
  intro plan
  let drafts := nt.drafts note.fields
  let ctx := r.context note.id (t.readCards note.id)
  let ids : IdSequence := .startingAt (Store.nextId t.cards)
  have distinct := nodup_ids_readCards t note.id
  have hidentities := Reconcile.nodup_identities_outcome drafts nt ctx ids distinct
  have haccounted := Reconcile.accounted (t.readCards note.id) drafts nt ctx ids
  refine ⟨fun c => absent_fit t r nt note, fun c hc id row => legible.alone_fit hc,
    Reconcile.nodup_toCreate_ids _ _ _ _ _, ?_, ?_, fun c => h.housed_fit, ?_, ?_, ?_⟩
  · rw [ReconcilePlan.outcome, List.map_append] at hidentities
    exact (List.nodup_append.mp hidentities).2.1
  · intro c hc
    obtain ⟨id', d, -, rfl⟩ := Reconcile.mem_toCreate _ _ _ _ _ hc
    exact stored
  · intro c hc
    obtain ⟨c₀, hc₀, d, rfl⟩ := Reconcile.mem_toUpdate _ _ _ _ _ hc
    exact contains_of_mem_readCards (c := c₀) hc₀
  · -- what goes is one of the cards that were read
    intro id hid
    obtain ⟨c₀, hc₀, rfl⟩ :=
      List.mem_map.mp (haccounted.mem_iff.mp (List.mem_append_right _ hid))
    exact contains_of_mem_readCards hc₀
  · exact (List.nodup_append.mp (haccounted.nodup_iff.mpr distinct)).2.1

theorem applyPlan_fit (h : t.Serves r) (legible : t.LegibleNote note.id) (nt : NoteType)
    (stored : t.notes.contains note.id = true) :
    ∃ t', store.applyPlan (r.fit nt note (t.readCards note.id) (Store.nextId t.cards)) t =
      .ok () t' := by
  obtain ⟨t', hdone⟩ := (h.ready_fit legible nt stored).writePlan
  exact ⟨t', done_transaction.mpr hdone⟩

theorem applyNotePlan_fit (h : t.Serves r) (legible : t.LegibleNote note.id) (nt : NoteType) :
    ∃ t', store.applyNotePlan note
      (r.fit nt note (t.readCards note.id) (Store.nextId t.cards)) t = .ok () t' := by
  -- once the note is written, the cards are the same and no reference is lost
  have hwritten : Serves { t with notes := t.notes.insert note.id (.of note) } r :=
    ⟨h.constrained.putNote note _, h.named, h.deck⟩
  obtain ⟨t', hdone⟩ :=
    (hwritten.ready_fit legible nt (SortedMap.contains_insert.mpr (Or.inl rfl))).writePlan
  exact ⟨_, done_transaction.mpr <|
    done_bind.mpr ⟨(), _, rfl, done_bind.mpr ⟨(), t', hdone, rfl⟩⟩⟩

/-- Tables that serve a regenerator still do so after a plan, with the same notes. -/
theorem applyPlan (h : t.Serves r) (plan : ReconcilePlan) :
    (left (store.applyPlan plan) t).Serves r ∧ (left (store.applyPlan plan) t).notes = t.notes := by
  have hframe : Cardless fun s => s.notes = t.notes ∧ s.decks = t.decks := fun _ _ _ _ hs => hs
  obtain ⟨hnotes, hdecks⟩ := keeps_transaction (hframe.writePlan plan) t ⟨rfl, rfl⟩
  exact ⟨⟨keepsWrites_constrained.store.applyPlan plan t h.constrained,
    (deckNames_congr hdecks).trans h.named, hdecks ▸ h.deck⟩, hnotes⟩

end Serves

/-- A plan for a note leaves the cards of other notes legible: its new cards are all for the note, and
the cards that it changes have been read. -/
theorem keeps_legibleNote_fit (t : Tables) (r : Regenerator) (nt : NoteType) (note : Note)
    (other : n ≠ note.id) :
    Keeps (LegibleNote · n)
      (store.applyPlan (r.fit nt note (t.readCards note.id) (Store.nextId t.cards))) := by
  refine keeps_transaction (keeps_writePlan (fun c hc => ?_) (fun c hc => ?_)
    keeps_legibleNote_deleteCard fun usn _ h => h)
  · obtain ⟨id, d, -, rfl⟩ := Reconcile.mem_toCreate _ _ _ _ _ hc
    exact keeps_legibleNote_insertCard fun hn => other hn.symm
  · obtain ⟨c₀, hc₀, d, rfl⟩ := Reconcile.mem_toUpdate _ _ _ _ _ hc
    exact keeps_legibleNote_updateCard (finite_of_mem_readCards (c := c₀) hc₀)

end Fit

/-! ## Batches -/

/-- Whether what failed was a note that could not be read, or came when no id was left. -/
def Excused (report : RegenerationReport) : Prop :=
  ∀ failure ∈ report.failures, failure.noteId = none ∨
    failure.error = (CollectionError.store (.backend .idsExhausted)).message

theorem Excused.addFailure {report : RegenerationReport} (h : Excused report)
    {noteId : Option NoteId} {error : String} (excuse : noteId = none ∨
      error = (CollectionError.store (.backend .idsExhausted)).message) :
    Excused (report.addFailure noteId error) := by
  intro failure hfailure
  rcases List.mem_append.mp hfailure with hfailure | hfailure
  · exact h failure hfailure
  · obtain rfl := List.mem_singleton.mp hfailure
    exact excuse

/-- What a batch of a note type relies on for a listed note that could be read: the note is there and of
the type, and its cards can be read. -/
structure Lists (t : Tables) (nt : NoteType) (note : Note) : Prop where
  stored : t.notes.contains note.id = true
  typed : nt.name = note.typeName
  legible : t.LegibleNote note.id

section Batch

variable {r : Regenerator} {nt : NoteType} {note : Note} {entry : Except StoreError Note}

namespace Serves

/-- A step fails for a note that cannot be read, and for want of ids. -/
theorem excused_step (h : t.Serves r) (listed : ∀ note, entry = .ok note → t.Lists nt note)
    {b : Batch} (hb : Excused b.report) : Excused (b.step store r nt entry t).1.report := by
  unfold Batch.step
  cases entry with
  | error e => exact hb.addFailure (Or.inl rfl)
  | ok note =>
    obtain ⟨stored, typed, legible⟩ := listed note rfl
    obtain ⟨t', hdone⟩ := h.applyPlan_fit legible nt stored
    dsimp only
    rw [legible.plan_eq typed]
    by_cases hid : Store.nextId t.cards ≤ lastId
    · rw [if_pos hid]
      dsimp only
      rw [hdone]
      exact hb
    · rw [if_neg hid]
      exact hb.addFailure (Or.inr rfl)

/-- A step leaves what the notes to come rely on. -/
theorem step (h : t.Serves r) (b : Batch)
    (listed : ∀ note, entry = .ok note → t.Lists nt note) :
    (b.step store r nt entry t).2.Serves r ∧
      ∀ other, t.Lists nt other → (∀ note, entry = .ok note → other.id ≠ note.id) →
        (b.step store r nt entry t).2.Lists nt other := by
  rcases @step_snd_cases _ store r nt entry t with hstep | ⟨note, plan, hentry, hplan, hstep⟩
  · rw [hstep b]
    exact ⟨h, fun _ hother _ => hother⟩
  · rw [hstep b]
    obtain ⟨hserves, hnotes⟩ := h.applyPlan plan
    refine ⟨hserves, fun other hother hne => ⟨hnotes ▸ hother.stored, hother.typed, ?_⟩⟩
    obtain ⟨-, typed, legible⟩ := listed note hentry
    rw [legible.plan_eq typed] at hplan
    split at hplan
    · obtain rfl := Except.ok.inj hplan
      exact keeps_legibleNote_fit t r nt note (hne note hentry) t hother.legible
    · cases hplan

/-- A batch has none but excused failures, if it comes to each note once. -/
theorem excused_run (h : t.Serves r) {entries : List (Except StoreError Note)}
    (listed : ∀ note, .ok note ∈ entries → t.Lists nt note)
    (distinct : ((entries.filterMap (·.toOption)).map (·.id)).Nodup) (cancel : CancelSignal)
    {b : Batch} (hb : Excused b.report) :
    Excused (b.run store r nt cancel entries t).1.report := by
  -- a step touches the cards of its own note only, so what is listed is as it was when its turn comes
  induction entries generalizing b t with
  | nil => exact hb
  | cons entry rest ih =>
    rw [run_cons]
    split
    · exact hb
    · have hlisted : ∀ note, entry = .ok note → t.Lists nt note :=
        fun note hnote => listed note (hnote ▸ List.mem_cons_self ..)
      obtain ⟨hserves, hlists⟩ := h.step b hlisted
      refine ih hserves (fun other hother => ?_) ?_ (h.excused_step hlisted hb)
      · refine hlists other (listed other (List.mem_cons_of_mem _ hother)) ?_
        rintro note rfl hid
        refine (List.nodup_cons.mp distinct).1 (List.mem_map.mpr ⟨other, ?_, hid⟩)
        exact List.mem_filterMap.mpr ⟨.ok other, hother, rfl⟩
      · cases entry with
        | error e => exact distinct
        | ok note => exact (List.nodup_cons.mp distinct).2

end Serves

end Batch

/-! ## Requests -/

theorem name_of_noteType? {name : String} {nt : NoteType}
    (h : store.noteType? name t = .ok (some nt)) : nt.name = name := by
  obtain ⟨_, -, hread⟩ := noteType?_eq_some.mp h
  exact (NoteTypeRow.decode_eq_ok hread).1

/-- What is listed of a type are its notes, each once. -/
theorem lists_notesOfType (legible : Legible t) {nt : NoteType}
    {entries : List (Except StoreError Note)} (listed : notesOfType nt.name t = .ok entries) :
    (∀ note, .ok note ∈ entries → t.Lists nt note) ∧
      ((entries.filterMap (·.toOption)).map (·.id)).Nodup := by
  obtain ⟨-, rfl⟩ := notesOfType_eq_ok.mp listed
  constructor
  · intro note hnote
    obtain ⟨⟨id, row⟩, hrow, hread⟩ := List.mem_map.mp hnote
    obtain ⟨hmem, htype⟩ := List.mem_filter.mp hrow
    obtain ⟨rfl, htypeName, -⟩ := NoteRow.decode_eq_ok hread
    refine ⟨SortedMap.contains_iff.mpr ⟨row, SortedMap.get?_eq_some_iff.mpr hmem⟩, ?_,
      legible.note note.id⟩
    rw [htypeName, beq_iff_eq.mp htype]
  · rw [List.filterMap_map]
    refine List.pairwise_map.mpr (List.pairwise_filterMap.mpr ?_)
    refine (t.notes.ascending.filter _).imp ?_
    intro a b hlt note hnote note' hnote' heq
    -- ids are the keys of the rows, which ascend
    obtain ⟨hid, -⟩ := NoteRow.decode_eq_ok (toOption_eq_some.mp hnote)
    obtain ⟨hid', -⟩ := NoteRow.decode_eq_ok (toOption_eq_some.mp hnote')
    rw [← hid, ← hid', heq] at hlt
    simp at hlt

section Requests

variable (constrained : Constrained t) (legible : Legible t)

include constrained legible

/-- A change of a note goes through. -/
theorem updateNote_done {change : NoteChange} {old : Note} {nt : NoteType}
    (deck : t.decks.contains change.defaultDeck = true)
    (found : store.note? change.noteId t = .ok (some old))
    (typed : store.noteType? old.typeName t = .ok (some nt))
    (ids : Store.nextId t.cards ≤ lastId) (marked : t.usn < lastId) (scheduler : Scheduler) :
    ∃ plan t', Collection.updateNote store scheduler change t = .ok plan t' := by
  obtain ⟨decks, named⟩ : ∃ decks, store.deckNames t = .ok decks := ⟨_, rfl⟩
  let note := change.note old (t.usn + 1)
  let r : Regenerator := ⟨scheduler, decks, change.defaultDeck, t.usn + 1, change.now⟩
  let plan := r.fit nt note (t.readCards old.id) (Store.nextId t.cards)
  have serves : t.Serves r := ⟨constrained, named, deck⟩
  obtain ⟨t', hdone⟩ := serves.applyNotePlan_fit (legible.note note.id) nt
  have hplan : planNoteChange store scheduler change t = .ok (note, plan) :=
    planNoteChange_eq_ok.mpr ⟨old, nt, t.usn + 1, decks, _, _, found, typed, name_of_noteType? typed,
      unusedUsn_eq_ok.mpr ⟨marked, rfl⟩, named, (legible.note old.id).cardsOfNote_eq, if_pos ids, rfl,
      rfl⟩
  exact ⟨plan, t', done_updateNote.mpr ⟨note, hplan, hdone⟩⟩

/-- Making the cards of a note type anew goes through, with none but excused failures. -/
theorem regenerate_done {typeName : String} {nt : NoteType} {options : RegenerationOptions}
    {entries : List (Except StoreError Note)} (deck : t.decks.contains options.defaultDeck = true)
    (typed : store.noteType? typeName t = .ok (some nt))
    (listed : store.notesOfType typeName t = .ok entries) (marked : t.usn < lastId)
    (scheduler : Scheduler) :
    ∃ report t', regenerate store scheduler typeName options t = .ok report t' ∧
      Excused report := by
  obtain ⟨decks, named⟩ : ∃ decks, store.deckNames t = .ok decks := ⟨_, rfl⟩
  obtain rfl := name_of_noteType? typed
  let r : Regenerator := ⟨scheduler, decks, options.defaultDeck, t.usn + 1, options.now⟩
  have serves : t.Serves r := ⟨constrained, named, deck⟩
  obtain ⟨hlists, distinct⟩ := lists_notesOfType legible listed
  exact ⟨_, _, regenerate_eq_ok (loadNoteType_eq_ok.mpr typed) listed named
      (unusedUsn_eq_ok.mpr ⟨marked, rfl⟩),
    serves.excused_run hlists distinct options.cancel (List.forall_mem_nil _)⟩

end Requests

/-- **Consistent tables take the plans that are made from them.** Where ids are left, the plan for a
note that is there, as it is or changed, is made and carried out, alone and with the note. Where there
is also a number for the change, a change of a note goes through. When the cards of a note type are made
anew, only notes that cannot be read fail, and notes that come when no id is left, unless the notes
cannot even be listed. -/
theorem own_plans_accepted (constrained : Constrained t) (legible : Legible t) {deck : DeckId}
    (there : t.decks.contains deck = true) :
    (∀ (r : Regenerator) (nt : NoteType) (note : Note), store.deckNames t = .ok r.decks →
      r.defaultDeck = deck → t.notes.contains note.id = true → nt.name = note.typeName →
      Store.nextId t.cards ≤ lastId →
        ∃ plan, r.plan store nt note t = .ok plan ∧
          (∃ t', store.applyPlan plan t = .ok () t') ∧
          ∃ t', store.applyNotePlan note plan t = .ok () t') ∧
      (∀ (scheduler : Scheduler) (change : NoteChange) (old : Note) (nt : NoteType),
        store.note? change.noteId t = .ok (some old) →
        store.noteType? old.typeName t = .ok (some nt) → change.defaultDeck = deck →
        Store.nextId t.cards ≤ lastId → t.usn < lastId →
          ∃ plan t', Collection.updateNote store scheduler change t = .ok plan t') ∧
      ∀ (scheduler : Scheduler) (typeName : String) (nt : NoteType) (options : RegenerationOptions),
        store.noteType? typeName t = .ok (some nt) → options.defaultDeck = deck → t.usn < lastId →
          (∃ report t', regenerate store scheduler typeName options t = .ok report t' ∧
            Excused report) ∨
          ∃ e, store.notesOfType typeName t = .error e ∧
            regenerate store scheduler typeName options t = .error (.store e) t := by
  refine ⟨?_, ?_, ?_⟩
  · rintro r nt note named rfl stored hname ids
    have serves : t.Serves r := ⟨constrained, named, there⟩
    have hlegible := legible.note note.id
    refine ⟨_, ?_, serves.applyPlan_fit hlegible nt stored, serves.applyNotePlan_fit hlegible nt⟩
    rw [hlegible.plan_eq hname, if_pos ids]
  · rintro scheduler change old nt found typed rfl ids marked
    exact updateNote_done constrained legible there found typed ids marked scheduler
  · rintro scheduler typeName nt options typed rfl marked
    cases listed : store.notesOfType typeName t with
    | ok entries =>
      exact .inl (regenerate_done constrained legible there typed listed marked scheduler)
    | error e =>
      exact .inr ⟨e, rfl, regenerate_eq_unlisted (loadNoteType_eq_ok.mpr typed) listed⟩

/-- A collection with a note of two gaps, and so two cards. -/
def gapped : Tables :=
  Operation.afterAll store [.seed "Default",
    .addNote {} ⟨"Cloze", 1, .ofList [("Text", "{{c1::a}} {{c2::b}}")], [], ⟨0, 0⟩⟩] {}

/-- A note that loses one of its gaps and gets another is taken with its new plan, changed, and made
anew. -/
theorem own_plans_accepted_gapped :
    let fields : FieldMap := .ofList [("Text", "{{c2::b}} {{c3::c}}")]
    let note : Note := ⟨1, "Cloze", fields, [], ⟨0, 0⟩, ⟨60, 0⟩, 2⟩
    let r : Regenerator := ⟨{}, .ofList [("Default", 1)], 1, 2, ⟨60, 0⟩⟩
    (∃ plan, r.plan store .cloze note gapped = .ok plan ∧
      (∃ t', store.applyPlan plan gapped = .ok () t') ∧
      ∃ t', store.applyNotePlan note plan gapped = .ok () t') ∧
    (∃ plan t', Collection.updateNote store {} ⟨1, fields, none, 1, ⟨60, 0⟩⟩ gapped =
      .ok plan t') ∧
    ∃ report t', regenerate store {} "Cloze" ⟨1, ⟨60, 0⟩, neverCancelled⟩ gapped = .ok report t' ∧
      Excused report := by
  intro fields note r
  let old : Note := ⟨1, "Cloze", .ofList [("Text", "{{c1::a}} {{c2::b}}")], [], ⟨0, 0⟩, ⟨0, 0⟩, 1⟩
  have constrained : Constrained gapped := constrained_afterAll _
  have legible : Legible gapped := by decide +kernel
  have there : gapped.decks.contains 1 = true := by decide +kernel
  have ids : Store.nextId gapped.cards ≤ lastId := by decide +kernel
  have marked : gapped.usn < lastId := by decide +kernel
  have typed : store.noteType? "Cloze" gapped = .ok (some .cloze) := by decide +kernel
  have found : store.note? 1 gapped = .ok (some old) := by decide +kernel
  have listed : store.notesOfType "Cloze" gapped = .ok [.ok old] := by decide +kernel
  obtain ⟨hplans, hchanges, hbatches⟩ := own_plans_accepted constrained legible there
  refine ⟨hplans r .cloze note ?_ rfl ?_ rfl ids, hchanges {} _ old .cloze found typed rfl ids marked,
    (hbatches {} "Cloze" .cloze _ typed rfl marked).resolve_right ?_⟩
  · decide +kernel
  · decide +kernel
  · rintro ⟨e, he, -⟩
    cases listed.symm.trans he

end Tables

end Flashcard
