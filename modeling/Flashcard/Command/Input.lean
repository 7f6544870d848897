import Flashcard.Collection.Error
import Flashcard.Document.NoteType
import Flashcard.Duplicate
import Flashcard.Json.Reader

/-!
# What users write

The parts of a command that are written in a notation of their own: values for fields, ratings, and
edits of note types.

- `CommandError`: why a command fails.
- `readFields`, `readRating`, `loadEdit`: the three notations.
-/

namespace Flashcard

/-- Why a command fails. -/
inductive CommandError where
  /-- The work on the collection fails. -/
  | work (e : CollectionError)
  | fieldWithoutValue (text : String)
  | fieldWithoutName (text : String)
  | unknownRating (text : String)
  | noEdit
  | badEdit
  | unreadableFile (path : String)
  | badEditFile
  | unknownScheduler (name : String)
  | unknownNoteType (name : String)
  | noteNotFound (id : NoteId)
  | deckNotFound (name : String)
  deriving Repr, DecidableEq

/-- The message of a failure. -/
def CommandError.message : CommandError → String
  | work e => e.message
  | fieldWithoutValue text => "invalid --field '" ++ text ++ "'. expected NAME=VALUE"
  | fieldWithoutName text => "invalid --field '" ++ text ++ "': field name is empty"
  | unknownRating text =>
    "invalid --rating '" ++ text ++
      "'. expected one of: again | hard | good | easy (or 1-4)"
  | noEdit => "must provide --edit or --edit-file"
  | badEdit => "--edit must be a valid note type edit"
  | unreadableFile path => "read edit-file failed: " ++ path
  | badEditFile => "edit-file must contain a valid note type edit"
  | unknownScheduler name => "unknown scheduler '" ++ name ++ "'. expected: sm2"
  | unknownNoteType name => "unknown note type: " ++ name
  | noteNotFound id => "note not found: " ++ toString id
  | deckNotFound name => "deck not found: " ++ name

/-! ## Fields -/

/-- The name and the value of an assignment, which stand before and behind the first `=`. Blank ends
of the name are cut. -/
def readField (text : String) : Except CommandError (String × String) :=
  let name := text.toList.takeWhile (· ≠ '=')
  match text.toList.drop name.length with
  | [] => .error (.fieldWithoutValue text)
  | _ :: value =>
    let name := Text.trimChars name
    if name.isEmpty then .error (.fieldWithoutName text)
    else .ok (String.ofList name, String.ofList value)

/-- The values of assignments; of two for one field the later one counts. -/
def readFields (texts : List String) : Except CommandError FieldMap := do
  pure (SortedMap.ofList (← texts.mapM readField))

/-! ## Ratings -/

/-- The rating of a word or of a number from 1 to 4. Case and blank ends do not count. -/
def readRating (text : String) : Except CommandError Rating :=
  match normalize text with
  | "1" => .ok .again
  | "2" => .ok .hard
  | "3" => .ok .good
  | "4" => .ok .easy
  | word =>
    match Rating.ofName? word with
    | some rating => .ok rating
    | none => .error (.unknownRating word)

/-! ## Edits -/

/-- The edit that a text says. -/
def readEdit? (text : String) : Option NoteTypeEdit := (Json.read? text).bind NoteTypeEdit.ofJson?

/-- The text of a file, without byte order marks at its start and without blank ends. -/
def fileContent (text : String) : String :=
  Text.trim (String.ofList (text.toList.dropWhile (· = '\uFEFF')))

/-- The edit that a file says, or else the one that a text says. -/
def loadEdit (file? : String → Option String) (edit path : Option String) :
    Except CommandError NoteTypeEdit :=
  match path, edit with
  | some path, _ =>
    match file? path with
    | none => .error (.unreadableFile path)
    | some text =>
      match readEdit? (fileContent text) with
      | none => .error .badEditFile
      | some edit => .ok edit
  | none, none => .error .noEdit
  | none, some text =>
    match readEdit? (Text.trim text) with
    | none => .error .badEdit
    | some edit => .ok edit

end Flashcard
