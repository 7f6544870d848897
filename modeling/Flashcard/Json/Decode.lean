import Flashcard.SortedMap
import Flashcard.Json.Value

/-!
# Decoding JSON values

Small decoders that the documents of the library are built from.

- `Json.int64?`, `Json.natBelow?`, `Json.bool?`, `Json.str?`, `Json.list?`, `Json.map?`: plain
  values.
- `Json.record?`: the members of a record that has given names, with `Record.required`,
  `Record.optional` and `Record.withDefault` to take them out.
-/

namespace Flashcard

namespace Json

/-- An integer of 64 bits with sign. -/
def int64? : Json → Option Int
  | .int n => if minInt ≤ n ∧ n < 9223372036854775808 then some n else none
  | _ => none

/-- A natural number below `limit`. -/
def natBelow? (limit : Nat) : Json → Option Nat
  | .int n => if 0 ≤ n ∧ n < limit then some n.toNat else none
  | _ => none

/-- A natural number of 8 bits. -/
def uint8? (j : Json) : Option UInt8 := (natBelow? 0x100 j).map UInt8.ofNat

/-- A natural number of 32 bits. -/
def nat32? : Json → Option Nat := natBelow? 0x100000000

/-- A natural number of 32 bits, as a word. -/
def uint32? (j : Json) : Option UInt32 := (nat32? j).map UInt32.ofNat

/-- A natural number of 64 bits. -/
def nat64? : Json → Option Nat := natBelow? 0x10000000000000000

/-- A finite number; an integer is taken as the double nearest to it. -/
def float? : Json → Option Float
  | .int n => some (Float.ofInt n)
  | .float x => if x.isFinite then some x else none
  | _ => none

/-- A truth value. -/
def bool? : Json → Option Bool
  | .bool b => some b
  | _ => none

/-- A string. -/
def str? : Json → Option String
  | .str s => some s
  | _ => none

/-- An array whose items all decode. -/
def list? {α : Type} (decode : Json → Option α) : Json → Option (List α)
  | .arr items => items.mapM decode
  | _ => none

/-- An object whose members all decode, as a map; of two members of one name the later one
counts. -/
def map? {α : Type} (decode : Json → Option α) : Json → Option (SortedMap String α)
  | .obj members => do
    let bindings ← members.mapM fun (name, value) => do pure (name, ← decode value)
    some (SortedMap.ofList bindings)
  | _ => none

/-- A value that may be `null`. -/
def nullable? {α : Type} (decode : Json → Option α) : Json → Option (Option α)
  | .null => some none
  | j => (decode j).map some

/-- The name of a plain choice: a string, or an object with that one name and the value `null`. -/
def choice? : Json → Option String
  | .str s => some s
  | .obj [(name, .null)] => some name
  | _ => none

/-- The members of a record. -/
abbrev Record := List (String × Json)

/-- The members of a record with the given names. An object may have other members, which do not
count, but none of these twice. An array holds the members in the order of the names; of the names
after the first `shortest` it may leave out the last ones. -/
def record? (names : List String) (shortest : Nat) : Json → Option Record
  | .obj members =>
    let known := members.filter fun m => names.contains m.1
    if (known.map (·.1)).Nodup then some known else none
  | .arr items =>
    if shortest ≤ items.length ∧ items.length ≤ names.length then some (names.zip items) else none
  | _ => none

namespace Record

variable {α : Type}

/-- A member that has to be there. -/
def required (r : Record) (name : String) (decode : Json → Option α) : Option α :=
  (r.lookup name).bind decode

/-- A member that may be absent or `null`. -/
def optional (r : Record) (name : String) (decode : Json → Option α) : Option (Option α) :=
  match r.lookup name with
  | none => some none
  | some j => nullable? decode j

/-- A member that stands for `default` when it is absent. -/
def withDefault (r : Record) (name : String) (default : α) (decode : Json → Option α) : Option α :=
  match r.lookup name with
  | none => some default
  | some j => decode j

end Record

end Json

end Flashcard
