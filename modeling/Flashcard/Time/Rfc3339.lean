import Flashcard.Text.Blank
import Flashcard.Text.Decimal
import Flashcard.Time.Timestamp

/-!
# Timestamps as text

Instants are written by RFC 3339, always in universal time, with as few groups of three fraction
digits as are exact. Years outside 0000 to 9999 carry a sign.

- `Timestamp.render`: the text with the offset `Z`, as documents hold it.
- `Timestamp.renderOffset`: the text with the offset `+00:00`, as table columns hold it.
- `Timestamp.read?`: reads a document's text; blanks between the parts, short numbers and signed
  years are allowed.
- `Timestamp.readExact`: reads a column's text; parts have fixed widths and years four digits.
-/

namespace Flashcard.Timestamp

/-! ## Writing -/

/-- The decimal digits of `n`, with zeros in front to make up `width`. -/
def padded (width n : Nat) : String :=
  let digits := (Nat.toDigits 10 n).length
  String.ofList (List.replicate (width - digits) '0' ++ Nat.toDigits 10 n)

/-- Four digits for the years 0 to 9999, and a sign with at least four digits for all others. -/
def renderYear (year : Int) : String :=
  if 0 ≤ year ∧ year ≤ 9999 then padded 4 year.toNat
  else (if year < 0 then "-" else "+") ++ padded 4 year.natAbs

/-- The fraction of a second: nothing, or the fewest of three, six or nine digits that are exact. -/
def renderFraction (nano : Nat) : String :=
  if nano = 0 then ""
  else if nano % 1000000 = 0 then "." ++ padded 3 (nano / 1000000)
  else if nano % 1000 = 0 then "." ++ padded 6 (nano / 1000)
  else "." ++ padded 9 nano

/-- An instant as text, with the given sign for the offset zero. -/
def renderWith (offset : String) (t : Timestamp) : String :=
  let date := Date.ofDay (t.second / secondsPerDay)
  let time := (t.second % secondsPerDay).toNat
  let (second, nano) :=
    if t.nano < nanosPerSecond then (time % 60, t.nano)
    else (time % 60 + 1, t.nano - nanosPerSecond)
  renderYear date.year ++ "-" ++ padded 2 date.month ++ "-" ++ padded 2 date.day ++ "T" ++
    padded 2 (time / 3600) ++ ":" ++ padded 2 (time / 60 % 60) ++ ":" ++ padded 2 second ++
    renderFraction nano ++ offset

/-- An instant as text, in universal time marked `Z`. -/
def render (t : Timestamp) : String := renderWith "Z" t

/-- An instant as text, in universal time marked `+00:00`. -/
def renderOffset (t : Timestamp) : String := renderWith "+00:00" t

/-! ## Reading -/

/-- What a text lacks to be a timestamp. -/
inductive ReadError where
  | tooShort
  | invalid
  | outOfRange
  | tooLong
  deriving Repr, DecidableEq

/-- The message that goes with a fault. -/
def ReadError.message : ReadError → String
  | .tooShort => "premature end of input"
  | .invalid => "input contains invalid characters"
  | .outOfRange => "input is out of range"
  | .tooLong => "trailing input"

/-- Reads a number of at least one and at most `width` digits. -/
def readDigits (width : Nat) (cs : List Char) : Except ReadError (List Char × List Char) :=
  let digits := (cs.take width).takeWhile Char.isDigit
  if digits.isEmpty then throw (if cs.isEmpty then .tooShort else .invalid)
  else pure (digits, cs.drop digits.length)

/-- Reads a number of exactly `width` digits. -/
def readFixed (width : Nat) (cs : List Char) : Except ReadError (Nat × List Char) := do
  let (digits, rest) ← readDigits width cs
  if digits.length = width then pure (Text.digitsValue digits, rest)
  else throw (if rest.isEmpty then .tooShort else .invalid)

/-- Reads a number of at most `width` digits after any blanks. -/
def readLoose (width : Nat) (cs : List Char) : Except ReadError (Nat × List Char) := do
  let (digits, rest) ← readDigits width (Text.trimStart cs)
  pure (Text.digitsValue digits, rest)

/-- Reads one character of the given ones. -/
def readOneOf (allowed : List Char) : List Char → Except ReadError (List Char)
  | [] => throw .tooShort
  | c :: rest => if allowed.contains c then pure rest else throw .invalid

/-- Reads a fraction of a second, if there is one, as nanoseconds. Digits after the ninth do not
count. -/
def readFraction (cs : List Char) : Except ReadError (Nat × List Char) :=
  match cs with
  | '.' :: rest => do
    let (digits, rest) ← readDigits 9 rest
    pure (Text.digitsValue digits * Nat.pow 10 (9 - digits.length), rest.dropWhile Char.isDigit)
  | _ => pure (0, cs)

/-- Reads an offset from universal time, in seconds. Where `loose`, any blanks and colons may stand
between hours and minutes, and otherwise one colon does. -/
def readOffset (loose : Bool) (cs : List Char) : Except ReadError (Int × List Char) :=
  match cs with
  | [] => throw .tooShort
  | c :: rest =>
    if c = 'Z' ∨ c = 'z' then pure (0, rest)
    else do
      let sign : Int ←
        if c = '+' then pure 1 else if c = '-' ∨ c = '\u2212' then pure (-1) else throw .invalid
      let (hours, rest) ← readFixed 2 rest
      let rest ←
        if loose then pure (rest.dropWhile fun c => c == ':' || Text.isBlank c)
        else readOneOf [':'] rest
      let (minutes, rest) ← readFixed 2 rest
      if 59 < minutes then throw .outOfRange
      pure (sign * (hours * 3600 + minutes * 60 : Nat), rest)

/-- The instant of a local date and time at an offset. A second numbered 60 is a leap second. -/
def ofParts (date : Date) (hour minute second nano : Nat) (offset : Int) :
    Except ReadError Timestamp :=
  if date.isValid ∧ hour < 24 ∧ minute < 60 ∧ second ≤ 60 ∧ -86400 < offset ∧ offset < 86400 then
    let (second, nano) := if second = 60 then (59, nano + nanosPerSecond) else (second, nano)
    let utc :=
      date.toDay * secondsPerDay + (hour * 3600 + minute * 60 + second : Nat) - offset
    if firstYear ≤ date.year ∧ date.year ≤ lastYear ∧ inRange utc then pure ⟨utc, nano⟩
    else throw .outOfRange
  else throw .outOfRange

/-- Reads the text of a column: fixed widths, years of four digits, and nothing around it. -/
def readExact (text : String) : Except ReadError Timestamp := do
  let cs := text.toList
  if cs.length < 19 then throw .tooShort
  let (year, cs) ← readFixed 4 cs
  let cs ← readOneOf ['-'] cs
  let (month, cs) ← readFixed 2 cs
  let cs ← readOneOf ['-'] cs
  let (day, cs) ← readFixed 2 cs
  let cs ← readOneOf ['T', 't', ' '] cs
  let (hour, cs) ← readFixed 2 cs
  let cs ← readOneOf [':'] cs
  let (minute, cs) ← readFixed 2 cs
  let cs ← readOneOf [':'] cs
  let (second, cs) ← readFixed 2 cs
  let (nano, cs) ← readFraction cs
  let (offset, cs) ← readOffset false cs
  if !cs.isEmpty then throw .tooLong
  ofParts ⟨year, month, day⟩ hour minute second nano offset

/-- Reads a year: up to four digits, or a sign and any number of them. -/
def readYear (cs : List Char) : Except ReadError (Int × List Char) :=
  match Text.trimStart cs with
  | '-' :: rest => do
    let (digits, rest) ← readDigits rest.length rest
    pure (-(Text.digitsValue digits : Int), rest)
  | '+' :: rest => do
    let (digits, rest) ← readDigits rest.length rest
    pure ((Text.digitsValue digits : Int), rest)
  | cs => do
    let (digits, rest) ← readDigits 4 cs
    pure ((Text.digitsValue digits : Int), rest)

/-- Reads the text of a document: numbers may be short and may have blanks around them, the date and
the time may be parted by a blank, and `UTC` may stand for the offset. -/
def readLenient (text : String) : Except ReadError Timestamp := do
  let (year, cs) ← readYear text.toList
  let cs ← readOneOf ['-'] (Text.trimStart cs)
  let (month, cs) ← readLoose 2 cs
  let cs ← readOneOf ['-'] (Text.trimStart cs)
  let (day, cs) ← readLoose 2 cs
  let cs ← readOneOf ['T', 't', ' '] cs
  let (hour, cs) ← readLoose 2 cs
  let cs ← readOneOf [':'] (Text.trimStart cs)
  let (minute, cs) ← readLoose 2 cs
  let cs ← readOneOf [':'] (Text.trimStart cs)
  let (second, cs) ← readLoose 2 cs
  let (nano, cs) ← readFraction cs
  let cs := Text.trimStart cs
  let (offset, cs) ←
    if (cs.take 3).map Char.toUpper = ['U', 'T', 'C'] then pure (0, cs.drop 3)
    else readOffset true cs
  if !(Text.trimStart cs).isEmpty then throw .tooLong
  ofParts ⟨year, month, day⟩ hour minute second nano offset

/-- The instant that the text of a document stands for. -/
def read? (text : String) : Option Timestamp := (readLenient text).toOption

end Flashcard.Timestamp
