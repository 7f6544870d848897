import Flashcard.Note

/-!
# Cards

- `CardIdentity`: what a card is among the cards of its note.
- `CardDraft`: what a note says about one of its cards.
- `SchedulingState`, `Review`: when a card is next studied, and one answer to it.
- `Card`: a stored card. `Deck`: where it is kept.
- `IdSequence`: consecutive new ids.
-/

namespace Flashcard

abbrev CardId := Int

abbrev DeckId := Int

/-- What tells a card from the other cards of its note. -/
structure CardIdentity where
  templateName : String
  /-- The cloze number of a cloze card, and 0 of a plain one. -/
  ordinal : UInt32
  deriving Repr, DecidableEq

namespace CardIdentity

/-- Whether one identity comes no later than another: by template name, then by number. -/
def isAtMost (a b : CardIdentity) : Bool :=
  match compare a.templateName b.templateName with
  | .lt => true
  | .eq => a.ordinal ≤ b.ordinal
  | .gt => false

/-- An identity as text. -/
def display (i : CardIdentity) : String := i.templateName ++ ":" ++ toString i.ordinal.toNat

end CardIdentity

/-- The content of a card as its note and template give it. -/
structure CardDraft where
  templateName : String
  ordinal : UInt32
  front : String
  back : String
  deriving Repr, DecidableEq

/-- The identity of the card that a draft is for. -/
def CardDraft.identity (d : CardDraft) : CardIdentity := ⟨d.templateName, d.ordinal⟩

/-- How well a card is known. -/
inductive CardStatus where
  | new
  | learning
  | review
  | relearning
  deriving Repr, DecidableEq

/-- The name of a status. -/
def CardStatus.name : CardStatus → String
  | .new => "new"
  | .learning => "learning"
  | .review => "review"
  | .relearning => "relearning"

/-- The status of a name. -/
def CardStatus.ofName? : String → Option CardStatus
  | "new" => some .new
  | "learning" => some .learning
  | "review" => some .review
  | "relearning" => some .relearning
  | _ => none

/-- How well an answer went. -/
inductive Rating where
  | again
  | hard
  | good
  | easy
  deriving Repr, DecidableEq

namespace Rating

/-- The name of a rating. -/
def name : Rating → String
  | again => "again"
  | hard => "hard"
  | good => "good"
  | easy => "easy"

/-- The rating of a name. -/
def ofName? : String → Option Rating
  | "again" => some again
  | "hard" => some hard
  | "good" => some good
  | "easy" => some easy
  | _ => none

/-- The grade of a rating, from 1 to 4. -/
def grade : Rating → Nat
  | again => 1
  | hard => 2
  | good => 3
  | easy => 4

/-- The rating of a grade. -/
def ofGrade? : Int → Option Rating
  | 1 => some again
  | 2 => some hard
  | 3 => some good
  | 4 => some easy
  | _ => none

end Rating

/-- When a card is next studied. Only the scheduler changes it. -/
structure SchedulingState where
  status : CardStatus
  intervalDays : Float
  easeFactor : Float
  stability : Option Float := none
  difficulty : Option Float := none
  lapses : Nat
  reviewsCount : Nat
  dueDate : Option Timestamp := none
  deriving DecidableEq

/-- Whether a card is to be studied at `now`; without a due date it never is. -/
def SchedulingState.isDue (s : SchedulingState) (now : Timestamp) : Bool :=
  match s.dueDate with
  | none => false
  | some due => due.isAtMost now

/-- One answer to a card. -/
structure Review where
  rating : Rating
  reviewedAt : Timestamp
  statusBefore : CardStatus
  intervalBefore : Float
  intervalAfter : Float
  easeBefore : Float
  easeAfter : Float
  timeTakenMs : Option Nat := none
  deriving DecidableEq

/-- A stored card. -/
structure Card where
  id : CardId
  noteId : NoteId
  deckId : DeckId
  templateName : String
  ordinal : UInt32
  front : String
  back : String
  scheduling : SchedulingState
  /-- The colour that the user gave the card, from 1 to 7, or 0. -/
  flag : UInt8 := 0
  marked : Bool := false
  suspended : Bool := false
  usn : Usn
  deriving DecidableEq

/-- The identity of a card. -/
def Card.identity (c : Card) : CardIdentity := ⟨c.templateName, c.ordinal⟩

/-- A named place for cards. -/
structure Deck where
  id : DeckId
  name : String
  deriving Repr, DecidableEq

/-- Consecutive new ids. -/
structure IdSequence where
  next : Int
  deriving Repr, DecidableEq

namespace IdSequence

/-- The ids from `first` on, but none below 1. -/
def startingAt (first : Int) : IdSequence := ⟨max first 1⟩

/-- The next `count` ids. -/
def take (ids : IdSequence) (count : Nat) : List Int :=
  (List.range count).map fun (k : Nat) => ids.next + k

/-- What is left after the next `count` ids. -/
def drop (ids : IdSequence) (count : Nat) : IdSequence := ⟨ids.next + count⟩

/-- The next `count` ids and what is left after them. Ids are taken one by one, and each has to leave a
next one. -/
def take? (ids : IdSequence) : Nat → Option (List Int × IdSequence)
  | 0 => some ([], ids)
  | count + 1 => do
    if ids.next < lastId then
      let (later, rest) ← take? ⟨ids.next + 1⟩ count
      some (ids.next :: later, rest)
    else none

end IdSequence

end Flashcard
