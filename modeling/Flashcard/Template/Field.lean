import Flashcard.Note
import Flashcard.Template.Token

/-!
# Fields in templates

A tag names a field, and is replaced by the field's value. Two forms are special: `FrontSide` stands
for the front when the back is rendered, and `type:` before a field asks the reader to type it.

- `lookup`: what a tag stands for.
- `render`: a plain template with its fields filled in.
- `renameReferences`: a template that says a new field name in place of an old one.
-/

namespace Flashcard.Template

/-- What stands in place of a field that is to be typed and has a value. -/
def typePrompt : String := "[type your answer here]"

/-- What stands in place of a field that is to be typed and is empty. -/
def typeEmpty : String := "[type: empty]"

/-- The tag that stands for the front. -/
def frontSide : List Char := "FrontSide".toList

/-- The start of a tag that asks for typing. -/
def typePrefix : List Char := "type:".toList

/-- The start of a tag for cloze text. -/
def clozePrefix : List Char := "cloze:".toList

/-- The name of a field, after its blank ends are cut, behind a given start of a tag. -/
def behind? (start key : List Char) : Option (List Char) :=
  (start.isPrefixOf? key).map Text.trimChars

/-- The value of a field, empty where there is none. -/
def fieldChars (fields : FieldMap) (name : List Char) : List Char :=
  (fields.value (String.ofList name)).toList

/-- What the tag with the given key stands for. The front is only known while a back is rendered;
otherwise `FrontSide` is a name like any other. -/
def lookup (fields : FieldMap) (front : Option String) (key : List Char) : List Char :=
  match front with
  | some front => if key = frontSide then front.toList else plain
  | none => plain
where
  /-- What the tag stands for apart from the front. -/
  plain : List Char :=
    match behind? typePrefix key with
    | some field => if fieldChars fields field = [] then typeEmpty.toList else typePrompt.toList
    | none => fieldChars fields key

/-- A plain template with its fields filled in. -/
def render (template : String) (fields : FieldMap) (front : Option String) : String :=
  expand (fun inner => lookup fields front (keyOf inner)) template

/-! ## Renaming -/

/-- The inside of a tag that refers to `new` in the way in which the tag with the given key refers
to `old`, if it does. -/
def renamedKey? (key old new : List Char) : Option (List Char) :=
  if key = old then some new
  else if behind? typePrefix key = some old then some (typePrefix ++ new)
  else if behind? clozePrefix key = some old then some (clozePrefix ++ new)
  else none

/-- A token that refers to `new` where the given one refers to `old`. -/
def renameToken (old new : List Char) : Token → Token
  | .text chars => .text chars
  | .tag inner => .tag ((renamedKey? (keyOf inner) old new).getD inner)

/-- A template whose references to the field `old`, of whatever form, are references to `new`. All
other text is kept as it is. -/
def renameReferences (template old new : String) : String :=
  String.ofList ((tokenize template).flatMap fun token =>
    (renameToken old.toList new.toList token).raw)

end Flashcard.Template
