/-!
# JSON values

- `Json`: a JSON value. Objects keep their members in the order of the text, repeated names
  included.
- `Json.isDocument`: whether a value keeps to the limits of a document, which hold for all that is
  read as a whole before it is looked into.
-/

namespace Flashcard

/-- A JSON value. Numbers written without fraction and exponent that fit 64 bits are `int`; all
others are `float`, where a magnitude beyond the double range is infinite. A string with an escape
for half a character is `garbled`, and so is an object with such a string for a name. -/
inductive Json where
  | null
  | bool (value : Bool)
  | int (value : Int)
  | float (value : Float)
  | str (value : String)
  | arr (items : List Json)
  | obj (members : List (String × Json))
  | garbled
  deriving Inhabited

namespace Json

/-- The least integer that is held as an integer. -/
def minInt : Int := -9223372036854775808

/-- The first integer that is too large to be held as an integer. -/
def intLimit : Int := 18446744073709551616

/-- The document of a value that may be missing, which then is `null`. -/
def ofOption {α : Type} (f : α → Json) : Option α → Json
  | none => .null
  | some a => f a

mutual

/-- Whether every number in a value lies in the double range and nothing is garbled. -/
def allReadable : Json → Bool
  | .float x => x.isFinite
  | .arr items => allReadableItems items
  | .obj members => allReadableMembers members
  | .garbled => false
  | _ => true

/-- `allReadable` of the items of an array. -/
def allReadableItems : List Json → Bool
  | [] => true
  | j :: rest => allReadable j && allReadableItems rest

/-- `allReadable` of the members of an object. -/
def allReadableMembers : List (String × Json) → Bool
  | [] => true
  | (_, j) :: rest => allReadable j && allReadableMembers rest

/-- The number of arrays and objects around the innermost value. -/
def depth : Json → Nat
  | .arr items => depthItems items + 1
  | .obj members => depthMembers members + 1
  | _ => 0

/-- The greatest depth of the items of an array. -/
def depthItems : List Json → Nat
  | [] => 0
  | j :: rest => max (depth j) (depthItems rest)

/-- The greatest depth of the members of an object. -/
def depthMembers : List (String × Json) → Nat
  | [] => 0
  | (_, j) :: rest => max (depth j) (depthMembers rest)

end

/-- How deep arrays and objects of a document may lie within each other. -/
def maxDepth : Nat := 127

/-- Whether a value keeps to the limits of a document, in its depth and in its parts. -/
def isDocument (j : Json) : Bool := j.allReadable && j.depth ≤ maxDepth

end Json

end Flashcard
