import Flashcard.Cloze.Marker
import Flashcard.Template.Field

/-!
# Rendering cloze text

On the card for one number only the parts of that number are hidden, and its back shows them marked;
all other parts show their answers.

- `Marker.render`: one part.
- `render`: a text.
- `expand`: a template whose `cloze:` tags show the rendered text of a field.
-/

namespace Flashcard.Cloze

/-- What is shown for a hidden part without a hint. -/
def mask : List Char := "[...]".toList

/-- What a part shows on the card for `target`, on its back if `reveal`. A blank hint counts as
none. -/
def Marker.render (m : Marker) (target : UInt32) (reveal : Bool) : List Char :=
  if m.ordinal ≠ some target then m.answer
  else if reveal then ['*', '*'] ++ m.answer ++ ['*', '*']
  else match m.hint with
    | none => mask
    | some hint => if hint.all Text.isBlank then mask else ['['] ++ hint ++ [']']

/-- What a tag in a text shows: a part as above, and any other tag itself. -/
def renderTag (target : UInt32) (reveal : Bool) (inner : List Char) : List Char :=
  match Marker.parse? inner with
  | some m => m.render target reveal
  | none => (Template.Token.tag inner).raw

/-- A text on the card for `target`, on its back if `reveal`. -/
def render (text : String) (target : UInt32) (reveal : Bool) : String :=
  Template.expand (renderTag target reveal) text

/-- What the tag with the given key stands for in a cloze template. -/
def lookup (fields : FieldMap) (front : Option String) (target : UInt32) (reveal : Bool)
    (key : List Char) : List Char :=
  match Template.behind? Template.clozePrefix key with
  | some field =>
    (render (String.ofList (Template.lookup fields front field)) target reveal).toList
  | none => Template.lookup fields front key

/-- A cloze template with its fields filled in, on the card for `target`, on its back if
`reveal`. -/
def expand (template : String) (fields : FieldMap) (front : Option String) (target : UInt32)
    (reveal : Bool) : String :=
  Template.expand (fun inner => lookup fields front target reveal (Template.keyOf inner)) template

end Flashcard.Cloze
