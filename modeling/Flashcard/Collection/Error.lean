import Flashcard.NoteType.Edit
import Flashcard.Store.Basic

/-!
# Work on a collection

- `CollectionError`: why work on a collection fails.
- `Work σ`: work on a store whose states are of type `σ`.
- `ask`, `write`: looks at and updates of the store, as work.
-/

namespace Flashcard

/-- Why work on a collection fails. -/
inductive CollectionError where
  | compile (e : CompileError)
  | edit (e : EditError)
  | store (e : StoreError)
  | noteNotFound (id : NoteId)
  | cardNotFound (id : CardId)
  | deckNotFound (id : DeckId)
  | invalidFlag (flag : UInt8)
  /-- An answer would make the card due outside the years that a timestamp can hold. -/
  | dueDateOutOfRange
  deriving Repr, DecidableEq

/-- The message of a failure. -/
def CollectionError.message : CollectionError → String
  | compile e => e.message
  | edit e => e.message
  | store e => e.message
  | noteNotFound id => "note not found: " ++ toString id
  | cardNotFound id => "card not found: " ++ toString id
  | deckNotFound id => "deck not found: " ++ toString id
  | invalidFlag flag => "flag must be 0-7, got " ++ toString flag.toNat
  | dueDateOutOfRange => "due date out of range"

namespace Collection

variable {σ α : Type}

/-- Work on a store. -/
abbrev Work (σ : Type) (α : Type) := EStateM CollectionError σ α

/-- The answer to a look at the store, with its failure as one of the work. -/
def asked (answer : Except StoreError α) : Except CollectionError α :=
  answer.mapError .store

/-- Looks at the store. -/
def ask (query : Query σ α) : Work σ α := fun s =>
  match query s with
  | .ok a => .ok a s
  | .error e => .error (.store e) s

/-- Changes the store. -/
def write (update : Update σ α) : Work σ α := fun s =>
  match update s with
  | .ok a after => .ok a after
  | .error e after => .error (.store e) after

/-- A value, or a failure of the work. -/
def demand (a : Except CollectionError α) : Work σ α := fun s =>
  match a with
  | .ok a => .ok a s
  | .error e => .error e s

/-- The note type of a name, which has to be there. -/
def loadNoteType (store : Store σ) (name : String) (s : σ) : Except CollectionError NoteType := do
  match ← asked (store.noteType? name s) with
  | some nt => pure nt
  | none => throw (.compile (.unknownNoteType name))

end Collection

end Flashcard
