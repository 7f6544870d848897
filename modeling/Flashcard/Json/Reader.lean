import Flashcard.Json.Number

/-!
# Reading JSON

The standard grammar and nothing beyond it: blanks may surround the value, but there are no trailing
commas, no leading zeros and no raw control characters in strings. Escapes for half a surrogate pair
are within the grammar but stand for no text, so what holds one can be passed over but not used.

- `Json.read?`: the value of a text, if the text is one JSON value.

The readers of the nested parts recurse on a bound that the length of the text always meets, since
each of them takes at least one character before it calls another.
-/

namespace Flashcard.Json

/-- Whether a character may stand between the parts of a value. -/
def isSpace (c : Char) : Bool := c == ' ' || c == '\n' || c == '\t' || c == '\r'

/-- The text after any blanks. -/
def skipSpace (cs : List Char) : List Char := cs.dropWhile isSpace

/-! ## Strings -/

/-- The value of a hexadecimal digit. -/
def hexDigit? (c : Char) : Option Nat :=
  if c.isDigit then some (c.toNat - '0'.toNat)
  else if 'a' ≤ c ∧ c ≤ 'f' then some (c.toNat - 'a'.toNat + 10)
  else if 'A' ≤ c ∧ c ≤ 'F' then some (c.toNat - 'A'.toNat + 10)
  else none

/-- Reads four hexadecimal digits. -/
def readHex4 : List Char → Option (Nat × List Char)
  | a :: b :: c :: d :: rest => do
    let high := (← hexDigit? a) * 16 + (← hexDigit? b)
    let low := (← hexDigit? c) * 16 + (← hexDigit? d)
    let value := high * 256 + low
    some (value, rest)
  | _ => none

/-- Reads the escape of a low surrogate. -/
def readLow? : List Char → Option (Nat × List Char)
  | '\\' :: 'u' :: rest => do
    let (low, rest) ← readHex4 rest
    if 0xDC00 ≤ low ∧ low < 0xE000 then some (low, rest) else none
  | _ => none

/-- Reads the character of a `u` escape after its `u`. A high surrogate and the escape of a low one
after it are one character; a surrogate without the other half of its pair is none. -/
def readUnicodeEscape (cs : List Char) : Option (Option Char × List Char) := do
  let (unit, rest) ← readHex4 cs
  if 0xD800 ≤ unit ∧ unit < 0xDC00 then
    match readLow? rest with
    | some (low, rest) =>
      some (some (Char.ofNat (0x10000 + (unit - 0xD800) * 0x400 + (low - 0xDC00))), rest)
    | none => some (none, rest)
  else if 0xDC00 ≤ unit ∧ unit < 0xE000 then some (none, rest)
  else some (some (Char.ofNat unit), rest)

/-- Reads an escape after its backslash. -/
def readEscape : List Char → Option (Option Char × List Char)
  | '"' :: rest => some ('"', rest)
  | '\\' :: rest => some ('\\', rest)
  | '/' :: rest => some ('/', rest)
  | 'b' :: rest => some ('\x08', rest)
  | 'f' :: rest => some ('\x0c', rest)
  | 'n' :: rest => some ('\n', rest)
  | 'r' :: rest => some ('\r', rest)
  | 't' :: rest => some ('\t', rest)
  | 'u' :: rest => readUnicodeEscape rest
  | _ => none

/-- Reads a string after its opening quote, character by character. -/
def readCharacters : Nat → List Char → Option (List (Option Char) × List Char)
  | _, [] => none
  | 0, _ => none
  | bound + 1, c :: rest =>
    if c = '"' then some ([], rest)
    else if c = '\\' then do
      let (decoded, rest) ← readEscape rest
      let (cs, rest) ← readCharacters bound rest
      some (decoded :: cs, rest)
    else if c.toNat < 0x20 then none
    else do
      let (cs, rest) ← readCharacters bound rest
      some (some c :: cs, rest)

/-- Reads a string after its opening quote, which has no text if some escape is for half a
character. -/
def readString (cs : List Char) : Option (Option String × List Char) := do
  let (text, rest) ← readCharacters cs.length cs
  some ((text.mapM id).map String.ofList, rest)

/-- The object with the given members. -/
def ofMembers (members : List (Option String × Json)) : Json :=
  match members.mapM fun m => m.1.map fun name => (name, m.2) with
  | some members => .obj members
  | none => .garbled

/-! ## Values -/

mutual

/-- Reads a value after any blanks. -/
def readValue : Nat → List Char → Option (Json × List Char)
  | 0, _ => none
  | bound + 1, cs =>
    match skipSpace cs with
    | 'n' :: 'u' :: 'l' :: 'l' :: rest => some (.null, rest)
    | 't' :: 'r' :: 'u' :: 'e' :: rest => some (.bool true, rest)
    | 'f' :: 'a' :: 'l' :: 's' :: 'e' :: rest => some (.bool false, rest)
    | '"' :: rest => do
      let (text, rest) ← readString rest
      some (text.elim .garbled .str, rest)
    | '[' :: rest =>
      match skipSpace rest with
      | ']' :: rest => some (.arr [], rest)
      | rest => do
        let (items, rest) ← readItems bound rest
        some (.arr items, rest)
    | '{' :: rest =>
      match skipSpace rest with
      | '}' :: rest => some (.obj [], rest)
      | rest => do
        let (members, rest) ← readMembers bound rest
        some (ofMembers members, rest)
    | rest => readNumber rest

/-- Reads the items of an array up to its closing bracket. -/
def readItems : Nat → List Char → Option (List Json × List Char)
  | 0, _ => none
  | bound + 1, cs => do
    let (item, rest) ← readValue bound cs
    match skipSpace rest with
    | ']' :: rest => some ([item], rest)
    | ',' :: rest => do
      let (items, rest) ← readItems bound rest
      some (item :: items, rest)
    | _ => none

/-- Reads the members of an object up to its closing brace. -/
def readMembers : Nat → List Char → Option (List (Option String × Json) × List Char)
  | 0, _ => none
  | bound + 1, cs =>
    match skipSpace cs with
    | '"' :: rest => do
      let (name, rest) ← readString rest
      match skipSpace rest with
      | ':' :: rest => do
        let (value, rest) ← readValue bound rest
        let member := (name, value)
        match skipSpace rest with
        | '}' :: rest => some ([member], rest)
        | ',' :: rest => do
          let (members, rest) ← readMembers bound rest
          some (member :: members, rest)
        | _ => none
      | _ => none
    | _ => none

end

/-- The value of a text that is one JSON value with nothing but blanks around it. -/
def read? (text : String) : Option Json := do
  let cs := text.toList
  let (value, rest) ← readValue (2 * cs.length + 1) cs
  if (skipSpace rest).isEmpty then some value else none

end Flashcard.Json
