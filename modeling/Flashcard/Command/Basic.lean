import Flashcard.Collection.Cards
import Flashcard.Command.Arguments

/-!
# Commands

The first plain argument of the command line names a command, and the arguments behind it are the
command's own. The option `--db`, which names the collection, may stand before and behind the name;
behind it, it counts more.

- `Command`: what is to be done.
- `CommandForm`: the name and the parameters of a command. `commandForms`: all of them.
- `CommandLine.read`: the command of some arguments.
-/

namespace Flashcard

/-- What is to be done with a collection. -/
inductive Command where
  /-- Makes the collection with the stock note types and the default deck. -/
  | init
  | noteTypes
  | noteType (name : String)
  | decks
  | addNote (typeName : String) (deck : Option String) (fields tags : List String)
  | editNote (note : NoteId) (fields : List String) (tags : Option (List String))
  /-- Edits a note type, as a file or a text says; the file counts more. -/
  | editType (name : String) (edit file : Option String)
  | regenerate (name : String)
  | cards (note : NoteId)
  | duplicates (typeName field value : String) (deck : Option String)
  | emptyCards (typeName : Option String) (delete : Bool)
  | answer (card : CardId) (rating : String) (timeTakenMs : Option Nat)
  | due (deck : Option String) (limit : Nat)
  | deckStats (deck : Option String)
  | reviews (card : CardId)
  | flag (card : CardId) (update : CardFlagsUpdate)
  deriving Repr, DecidableEq

/-- The name and the parameters of a command. -/
structure CommandForm where
  name : String
  positions : List Parameter := []
  options : List Parameter := []
  /-- The command of arguments. -/
  build : Arguments → Except UsageError Command

namespace CommandForm

/-- The option that names the collection, which all commands have. -/
def collection : Parameter := ⟨"db", .once .path⟩

/-- The option that names a deck. -/
def deck : Parameter := ⟨"deck", .once .text⟩

/-- The option that names a note type. -/
def typeName : Parameter := ⟨"type", .once .text⟩

/-- The option that sets a field. -/
def field : Parameter := ⟨"field", .often⟩

/-- The option that sets tags. -/
def tags : Parameter := ⟨"tags", .lists⟩

/-- The position for the name of a note type. -/
def noteTypeName : Parameter := ⟨"name", .once .text⟩

/-- The position for the id of a note. -/
def note : Parameter := ⟨"note_id", .once .int64⟩

/-- The position for the id of a card. -/
def card : Parameter := ⟨"card_id", .once .int64⟩

/-- How many cards are shown unless the user says otherwise. -/
def defaultLimit : Nat := 10

end CommandForm

open CommandForm in
/-- The forms of all commands. -/
def commandForms : List CommandForm := [
  { name := "init", build := fun _ => pure .init },
  { name := "note-types", build := fun _ => pure .noteTypes },
  { name := "note-type", positions := [noteTypeName]
    build := fun a => do pure (.noteType (← a.text "name")) },
  { name := "decks", build := fun _ => pure .decks },
  { name := "add-note", options := [typeName, deck, field, tags]
    build := fun a => do
      pure (.addNote (← a.text "type") (a.text? "deck") (a.texts "field") (a.texts "tags")) },
  { name := "edit-note", positions := [note], options := [field, tags]
    build := fun a => do
      pure (.editNote (← a.number "note_id") (a.texts "field") (a.texts? "tags")) },
  { name := "edit-type", positions := [noteTypeName]
    options := [⟨"edit", .once .text⟩, ⟨"edit-file", .once .text⟩]
    build := fun a => do
      pure (.editType (← a.text "name") (a.text? "edit") (a.text? "edit-file")) },
  { name := "regenerate", positions := [noteTypeName]
    build := fun a => do pure (.regenerate (← a.text "name")) },
  { name := "cards", positions := [note]
    build := fun a => do pure (.cards (← a.number "note_id")) },
  { name := "duplicates"
    options := [typeName, ⟨"field", .once .text⟩, ⟨"value", .once .text⟩, deck]
    build := fun a => do
      pure (.duplicates (← a.text "type") (← a.text "field") (← a.text "value")
        (a.text? "deck")) },
  { name := "empty-cards", options := [typeName, ⟨"delete", .switch⟩]
    build := fun a => pure (.emptyCards (a.text? "type") (a.has "delete")) },
  { name := "answer", positions := [card]
    options := [⟨"rating", .once .text⟩, ⟨"time-ms", .once .nat32⟩]
    build := fun a => do
      pure (.answer (← a.number "card_id") (← a.text "rating")
        ((a.number? "time-ms").map Int.toNat)) },
  { name := "due", options := [deck, ⟨"limit", .once .nat64⟩]
    build := fun a =>
      pure (.due (a.text? "deck") (((a.number? "limit").map Int.toNat).getD defaultLimit)) },
  { name := "deck-stats", options := [deck]
    build := fun a => pure (.deckStats (a.text? "deck")) },
  { name := "reviews", positions := [card]
    build := fun a => do pure (.reviews (← a.number "card_id")) },
  { name := "flag", positions := [card]
    options := [⟨"flag", .once .nat8⟩, ⟨"marked", .once .truth⟩, ⟨"suspended", .once .truth⟩]
    build := fun a => do
      pure (.flag (← a.number "card_id") {
        flag := (a.number? "flag").map fun n => UInt8.ofNat n.toNat
        marked := a.truth? "marked"
        suspended := a.truth? "suspended" }) }]

/-- The form of the command of a name. -/
def commandForm? (name : String) : Option CommandForm := commandForms.find? (·.name == name)

/-- The name of the command that shows help about commands. -/
def helpCommand : String := "help"

/-- Whether a word names a command. -/
def isCommandName (name : String) : Bool := name == helpCommand || (commandForm? name).isSome

/-- A command, and the collection that it is for. -/
structure CommandLine where
  path : Option String
  command : Command
  deriving Repr, DecidableEq

namespace CommandLine

/-- What asking for help about the commands of some names gives: help about one command or about
all, but a command has no commands of its own. -/
def helpAbout : List String → UsageError
  | [] => .help
  | [name] => if isCommandName name then .help else .unknownCommand name
  | name :: next :: _ => if isCommandName name then .unknownCommand next else .unknownCommand name

/-- The command of a name and of the arguments behind it. -/
def readCommand (name : String) (rest : List String) : Except UsageError CommandLine :=
  match commandForm? name with
  | none => .error (.unknownCommand name)
  | some form => do
    let options := CommandForm.collection :: form.options
    let arguments ← ({ positions := form.positions, options : Reading }).run rest
    let command ← form.build arguments
    pure ⟨arguments.text? CommandForm.collection.name, command⟩

/-- Refuses a command line that ends before the command. -/
def withoutCommand (r : Reading) : Except UsageError CommandLine := do
  let arguments ← r.settle
  throw (if arguments.isEmpty then .nothingGiven else .missingCommand)

/-- Reads arguments up to the name of the command, and then the command. -/
def readFrom (r : Reading) : List String → Except UsageError CommandLine
  | [] => withoutCommand r
  | arg :: rest =>
    match Word.ofString arg with
    | .separator =>
      match rest with
      | [] => withoutCommand r
      | name :: _ =>
        .error (if isCommandName name then .unknownArgument name else .unknownCommand name)
    | .option name value => do readFrom (← r.takeOption name value) rest
    | .letters first => do readFrom (← r.takeLetters first) rest
    | .plain text =>
      match r.pending with
      | .waiting _ => do readFrom (← r.takePlain text) rest
      | _ =>
        if text = helpCommand then .error (helpAbout rest)
        else do
          let line ← readCommand text rest
          let arguments ← r.settle
          pure { line with
            path := line.path.or (arguments.text? CommandForm.collection.name) }

/-- The command of the arguments of the program. -/
def read (arguments : List String) : Except UsageError CommandLine :=
  readFrom { options := [CommandForm.collection] } arguments

end CommandLine

end Flashcard
