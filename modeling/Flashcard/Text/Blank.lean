import Flashcard.Text.CharRange

/-!
# Blank characters and trimming

A character is blank when it has the `White_Space` property. Zero-width characters and the byte
order mark do not have it, and neither do the separators U+001C to U+001F.

- `isBlank`: the property.
- `trim`: a text without its blank ends.
- `allBlank`: whether trimming leaves nothing.
-/

namespace Flashcard.Text

/-- The characters with the property `White_Space`. -/
def blankTable : List CharRange := [
  ⟨0x09, 0x0D⟩, ⟨0x20, 0x20⟩, ⟨0x85, 0x85⟩, ⟨0xA0, 0xA0⟩, ⟨0x1680, 0x1680⟩, ⟨0x2000, 0x200A⟩,
  ⟨0x2028, 0x2029⟩, ⟨0x202F, 0x202F⟩, ⟨0x205F, 0x205F⟩, ⟨0x3000, 0x3000⟩]

/-- Whether a character is white space. -/
def isBlank (c : Char) : Bool := CharRange.covers blankTable c

/-- Characters without the blanks they start with. -/
def trimStart (cs : List Char) : List Char := cs.dropWhile isBlank

/-- Characters without the blanks they end with. -/
def trimEnd (cs : List Char) : List Char := (cs.reverse.dropWhile isBlank).reverse

/-- Characters without the blanks at either end. -/
def trimChars (cs : List Char) : List Char := trimEnd (trimStart cs)

/-- A text without the blanks at either end. -/
def trim (s : String) : String := String.ofList (trimChars s.toList)

/-- Whether a text holds nothing but blanks. -/
def allBlank (s : String) : Bool := s.toList.all isBlank

/-- A text, unless it is blank. -/
def nonBlank? (s : String) : Option String := if allBlank s then none else some s

end Flashcard.Text
