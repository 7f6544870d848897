/-!
# Arguments

The arguments of a command are options, which begin with two dashes and may take a value, and plain
arguments, which fill positions. After a lone `--` all arguments are plain.

The value of an option stands behind `=` in the same argument, or is the next argument if that is no
option itself. It is checked as soon as the next option or position begins, so that of several
mistakes the first one counts.

- `Word`: an argument by its form.
- `Parameter`: an option or a position, and what values it takes.
- `Parameters.read`: the values that the arguments of a command give.
- `UsageError`: why arguments are refused.
-/

namespace Flashcard

/-- Why arguments do not make a command. -/
inductive UsageError where
  /-- An option lacks its value. -/
  | missingValue (name : String)
  /-- A value is neither true nor false. -/
  | notTruth (name text : String)
  /-- A value is no number, or one out of range. -/
  | notNumber (name text : String)
  /-- A switch was given a value. -/
  | unneededValue (name : String)
  /-- An option that takes one value was given twice. -/
  | repeated (name : String)
  | unknownArgument (text : String)
  | missingArgument (name : String)
  | unknownCommand (name : String)
  | missingCommand
  /-- Help was asked for. -/
  | help
  /-- There are no arguments at all, which counts as asking for help. -/
  | nothingGiven
  deriving Repr, DecidableEq

/-- The message of a usage error. -/
def UsageError.message : UsageError → String
  | missingValue name => "a value is required for '" ++ name ++ "'"
  | notTruth name text => "'" ++ text ++ "' is not true or false, which '" ++ name ++ "' has to be"
  | notNumber name text => "'" ++ text ++ "' is not a number that '" ++ name ++ "' can be"
  | unneededValue name => "'" ++ name ++ "' takes no value"
  | repeated name => "'" ++ name ++ "' cannot be used twice"
  | unknownArgument text => "unexpected argument '" ++ text ++ "'"
  | missingArgument name => "'" ++ name ++ "' was not provided"
  | unknownCommand name => "unrecognized command '" ++ name ++ "'"
  | missingCommand => "a command is required"
  | help => "help requested"
  | nothingGiven => "no arguments given"

/-! ## Words -/

/-- An argument by its form. -/
inductive Word where
  /-- The lone double dash. -/
  | separator
  /-- An option, and what stands behind the first `=` in it. -/
  | option (name : String) (value : Option String)
  /-- A dash and one or more letters, by the first letter. -/
  | letters (first : Char)
  | plain (text : String)
  deriving Repr, DecidableEq

/-- The form of an argument. A lone dash is plain. -/
def Word.ofString (text : String) : Word :=
  match text.toList with
  | ['-', '-'] => .separator
  | '-' :: '-' :: rest =>
    let name := rest.takeWhile (· ≠ '=')
    .option (String.ofList name) (match rest.drop name.length with
      | [] => none
      | _ :: value => some (String.ofList value))
  | '-' :: first :: _ => .letters first
  | _ => .plain text

/-! ## Values -/

/-- What values a parameter takes. -/
inductive ValueKind where
  | text
  /-- Text that is not empty. -/
  | path
  /-- A number from `low` on and below `limit`. -/
  | integer (low limit : Int)
  /-- A number below `limit` that is written without a minus sign. -/
  | natural (limit : Nat)
  | truth
  deriving Repr, DecidableEq

/-- A value that was read. -/
inductive ArgumentValue where
  | text (value : String)
  | number (value : Int)
  | truth (value : Bool)
  deriving Repr, DecidableEq

/-- The number that one or more of the digits 0 to 9 stand for. -/
def readDigits? (cs : List Char) : Option Nat :=
  if cs.isEmpty || cs.any (!·.isDigit) then none
  else some (cs.foldl (fun n c => 10 * n + (c.toNat - '0'.toNat)) 0)

/-- A natural number, which may begin with a plus sign. -/
def readNatural? : List Char → Option Nat
  | '+' :: digits => readDigits? digits
  | digits => readDigits? digits

/-- An integer, which may begin with a sign. -/
def readInteger? : List Char → Option Int
  | '-' :: digits => (readDigits? digits).map fun n => -n
  | cs => (readNatural? cs).map Int.ofNat

namespace ValueKind

/-- The value that a text stands for, of the parameter with the given name. -/
def read (name text : String) : ValueKind → Except UsageError ArgumentValue
  | .text => .ok (.text text)
  | .path => if text.isEmpty then .error (.missingValue name) else .ok (.text text)
  | integer low limit =>
    match readInteger? text.toList with
    | some n => if low ≤ n ∧ n < limit then .ok (.number n) else .error (.notNumber name text)
    | none => .error (.notNumber name text)
  | natural limit =>
    match readNatural? text.toList with
    | some n => if n < limit then .ok (.number n) else .error (.notNumber name text)
    | none => .error (.notNumber name text)
  | truth =>
    match text with
    | "true" => .ok (.truth true)
    | "false" => .ok (.truth false)
    | _ => .error (.notTruth name text)

/-- An integer of 64 bits with sign. -/
def int64 : ValueKind := .integer (-0x8000000000000000) 0x8000000000000000

/-- A natural number of 8 bits. -/
def nat8 : ValueKind := .integer 0 0x100

/-- A natural number of 32 bits. -/
def nat32 : ValueKind := .integer 0 0x100000000

/-- A natural number of 64 bits. -/
def nat64 : ValueKind := .natural 0x10000000000000000

end ValueKind

/-! ## Parameters -/

/-- How a parameter is used. -/
inductive ParameterUse where
  /-- Given or not, without a value. -/
  | switch
  /-- At most once, with a value. -/
  | once (kind : ValueKind)
  /-- Any number of times, with a text each time. -/
  | often
  /-- Any number of times, each time with texts that commas keep apart. -/
  | lists
  deriving Repr, DecidableEq

/-- An option or a position of a command. -/
structure Parameter where
  name : String
  use : ParameterUse
  deriving Repr, DecidableEq

/-- The values given, with the names of their parameters. -/
abbrev Arguments := List (String × ArgumentValue)

namespace Arguments

/-- Whether a parameter was given. -/
def has (a : Arguments) (name : String) : Bool := (a.lookup name).isSome

/-- The texts given for a parameter. -/
def texts (a : Arguments) (name : String) : List String :=
  a.filterMap fun entry =>
    match entry with
    | (key, .text value) => if key = name then some value else none
    | _ => none

/-- The texts given for a parameter, if it was given. -/
def texts? (a : Arguments) (name : String) : Option (List String) :=
  if a.has name then some (a.texts name) else none

/-- The text given for a parameter. -/
def text? (a : Arguments) (name : String) : Option String := (a.texts name).head?

/-- The number given for a parameter. -/
def number? (a : Arguments) (name : String) : Option Int :=
  match a.lookup name with
  | some (.number n) => some n
  | _ => none

/-- The truth value given for a parameter. -/
def truth? (a : Arguments) (name : String) : Option Bool :=
  match a.lookup name with
  | some (.truth b) => some b
  | _ => none

/-- Refuses to go without a value. -/
def demand {α : Type} (name : String) : Option α → Except UsageError α
  | none => .error (.missingArgument name)
  | some a => .ok a

/-- The text of a parameter that has to be given. -/
def text (a : Arguments) (name : String) : Except UsageError String := demand name (a.text? name)

/-- The number of a parameter that has to be given. -/
def number (a : Arguments) (name : String) : Except UsageError Int := demand name (a.number? name)

/-- The arguments with one more use of a parameter, by the text of its value. A switch has none,
whatever the text. -/
def give (a : Arguments) (p : Parameter) (text : String) : Except UsageError Arguments :=
  match p.use with
  | .switch =>
    if a.has p.name then .error (.repeated p.name) else .ok (a ++ [(p.name, .truth true)])
  | .once kind =>
    if a.has p.name then .error (.repeated p.name)
    else do
      let value ← kind.read p.name text
      pure (a ++ [(p.name, value)])
  | .often => .ok (a ++ [(p.name, .text text)])
  | .lists => .ok (a ++ (text.splitOn ",").map fun part => (p.name, .text part))

end Arguments

/-! ## Reading arguments -/

/-- A parameter that was begun and is not settled. -/
inductive Pending where
  | none
  /-- An option that still waits for its value. -/
  | waiting (p : Parameter)
  /-- A parameter with a value that was not looked at yet. -/
  | given (p : Parameter) (text : String)
  deriving Repr, DecidableEq

/-- Arguments that are being read. -/
structure Reading where
  /-- The positions that are still free. -/
  positions : List Parameter := []
  options : List Parameter
  arguments : Arguments := []
  pending : Pending := .none
  deriving Repr, DecidableEq

namespace Reading

/-- The arguments so far, with what was pending. -/
def settle (r : Reading) : Except UsageError Arguments :=
  match r.pending with
  | .none => .ok r.arguments
  | .waiting p => .error (.missingValue p.name)
  | .given p text => r.arguments.give p text

/-- Settles what is pending before something new begins. -/
def next (r : Reading) (pending : Pending) : Except UsageError Reading := do
  pure { r with arguments := ← r.settle, pending }

/-- Takes an option up. -/
def takeOption (r : Reading) (name : String) (value : Option String) : Except UsageError Reading :=
  match r.options.find? (·.name == name) with
  | some p =>
    match p.use, value with
    | .switch, some _ => .error (.unneededValue name)
    | .switch, none => do
      let r ← r.next .none
      pure { r with arguments := ← r.arguments.give p "" }
    | _, some text => do
      let r ← r.next .none
      pure { r with arguments := ← r.arguments.give p text }
    | _, none => r.next (.waiting p)
  | none =>
    if name = "help" then
      match value with
      | some _ => .error (.unneededValue name)
      | none => do
        let _ ← r.settle
        throw .help
    else .error (.unknownArgument name)

/-- Takes letters behind a single dash up, of which only `h` means something. -/
def takeLetters (r : Reading) (first : Char) : Except UsageError Reading :=
  if first = 'h' then do
    let _ ← r.settle
    throw .help
  else .error (.unknownArgument (String.ofList ['-', first]))

/-- Puts a plain argument into the next position. -/
def takePosition (r : Reading) (text : String) : Except UsageError Reading :=
  match r.positions with
  | [] => .error (.unknownArgument text)
  | p :: positions => do
    let r ← r.next (.given p text)
    pure { r with positions }

/-- Takes a plain argument up, which is the value of an option that waits for one. -/
def takePlain (r : Reading) (text : String) : Except UsageError Reading :=
  match r.pending with
  | .waiting p => .ok { r with pending := .given p text }
  | _ => r.takePosition text

/-- Reads the arguments of a command to their end. -/
def run (r : Reading) : List String → Except UsageError Arguments
  | [] => r.settle
  | arg :: rest =>
    match Word.ofString arg with
    | .separator => do (← rest.foldlM takePosition r).settle
    | .option name value => do (← r.takeOption name value).run rest
    | .letters first => do (← r.takeLetters first).run rest
    | .plain text => do (← r.takePlain text).run rest

end Reading

end Flashcard
