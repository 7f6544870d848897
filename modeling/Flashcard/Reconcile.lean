import Flashcard.Compile
import Flashcard.Scheduling.Scheduler

/-!
# Fitting stored cards to drafts

The cards that a note has are matched with the drafts that it gives now, by identity. A matched card
keeps its id, deck, scheduling and flags; only its content moves. An unmatched draft becomes a new
card, and an unmatched card goes. Where several cards or drafts have one identity, the card of
lowest id and the first draft count.

- `firstOfEach`, `laterOfEach`: the first element of each key, and all others.
- `ReconcilePlan`: what to create, update and delete.
- `reconcile`: the plan that turns the stored cards into those of the drafts. `reconcile?`: the plan, if
  there are ids enough for it.
-/

namespace Flashcard

/-! ## The first of each key -/

/-- The elements whose key is not among `seen` nor the key of an earlier element. -/
def firstOfEachAfter {α κ : Type} [DecidableEq κ] (key : α → κ) (seen : List κ) : List α → List α
  | [] => []
  | a :: rest =>
    if key a ∈ seen then firstOfEachAfter key seen rest
    else a :: firstOfEachAfter key (key a :: seen) rest

/-- The first element of each key, in their order. -/
def firstOfEach {α κ : Type} [DecidableEq κ] (key : α → κ) (l : List α) : List α :=
  firstOfEachAfter key [] l

/-- The elements whose key is among `seen` or the key of an earlier element. -/
def laterOfEachAfter {α κ : Type} [DecidableEq κ] (key : α → κ) (seen : List κ) : List α → List α
  | [] => []
  | a :: rest =>
    if key a ∈ seen then a :: laterOfEachAfter key seen rest
    else laterOfEachAfter key (key a :: seen) rest

/-- The elements that are not the first of their key, in their order. -/
def laterOfEach {α κ : Type} [DecidableEq κ] (key : α → κ) (l : List α) : List α :=
  laterOfEachAfter key [] l

/-! ## Plans -/

/-- What to write so that a note's cards match its drafts. -/
structure ReconcilePlan where
  noteId : NoteId
  usn : Usn
  toCreate : List Card := []
  /-- Cards with new content. -/
  toUpdate : List Card := []
  toDelete : List CardId := []
  /-- Cards whose content was right already. -/
  unchanged : List CardId := []
  deriving DecidableEq

/-- Whether a plan writes nothing. -/
def ReconcilePlan.isNoop (plan : ReconcilePlan) : Bool :=
  plan.toCreate.isEmpty && plan.toUpdate.isEmpty && plan.toDelete.isEmpty

/-- What the cards of one note have in common. -/
structure ReconcileContext where
  noteId : NoteId
  /-- The deck of new cards whose template names no deck that exists. -/
  defaultDeck : DeckId
  /-- The mark of new cards and of cards with new content. -/
  usn : Usn
  now : Timestamp
  scheduler : Scheduler
  /-- Decks by name. -/
  decks : SortedMap String DeckId

namespace Reconcile

/-- The deck of a new card. -/
def deckFor (nt : NoteType) (ctx : ReconcileContext) (templateName : String) : DeckId :=
  match (nt.template? templateName).bind (·.deckName?) with
  | none => ctx.defaultDeck
  | some name => ctx.decks.getD name ctx.defaultDeck

/-- The new card of a draft. -/
def newCard (nt : NoteType) (ctx : ReconcileContext) (id : CardId) (d : CardDraft) : Card where
  id := id
  noteId := ctx.noteId
  deckId := deckFor nt ctx d.templateName
  templateName := d.templateName
  ordinal := d.ordinal
  front := d.front
  back := d.back
  scheduling := ctx.scheduler.newCard ctx.now
  usn := ctx.usn

/-- Whether a card shows what a draft says. -/
def shows (c : Card) (d : CardDraft) : Bool := c.front == d.front && c.back == d.back

/-- The card of a draft's identity. -/
def match? (cards : List Card) (d : CardDraft) : Option Card :=
  cards.find? fun c => c.identity = d.identity

/-- The card with the content of a draft. -/
def refresh (ctx : ReconcileContext) (c : Card) (d : CardDraft) : Card :=
  { c with front := d.front, back := d.back, usn := ctx.usn }

end Reconcile

open Reconcile in
/-- The plan that makes the cards of a note match its drafts, and the ids that are left. Once it is
carried out, a second plan has nothing to write. -/
def reconcile (existing : List Card) (drafts : List CardDraft) (nt : NoteType)
    (ctx : ReconcileContext) (ids : IdSequence) : ReconcilePlan × IdSequence :=
  let byId := existing.mergeSort fun a b => a.id ≤ b.id
  let kept := firstOfEach Card.identity byId
  let wanted := firstOfEach CardDraft.identity drafts
  let fresh := wanted.filter fun d => (match? kept d).isNone
  let matched := wanted.filterMap fun d => (match? kept d).map fun c => (c, d)
  let gone := kept.filter fun c => c.identity ∉ wanted.map CardDraft.identity
  let plan : ReconcilePlan := {
    noteId := ctx.noteId
    usn := ctx.usn
    toCreate := (List.zip (ids.take fresh.length) fresh).map fun (id, d) => newCard nt ctx id d
    toUpdate := (matched.filter fun (c, d) => !shows c d).map fun (c, d) => refresh ctx c d
    toDelete := ((laterOfEach Card.identity byId ++ gone).map (·.id)).mergeSort
    unchanged := (matched.filter fun (c, d) => shows c d).map fun (c, _) => c.id }
  (plan, ids.drop fresh.length)

/-- The plan and the ids that are left, unless the ids do not go on after its new cards. -/
def reconcile? (existing : List Card) (drafts : List CardDraft) (nt : NoteType)
    (ctx : ReconcileContext) (ids : IdSequence) : Option (ReconcilePlan × IdSequence) :=
  let plan := (reconcile existing drafts nt ctx ids).1
  (ids.take? plan.toCreate.length).map fun (_, rest) => (plan, rest)

end Flashcard
