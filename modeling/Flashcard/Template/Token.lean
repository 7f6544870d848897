import Flashcard.Text.Blank
import Flashcard.Text.Digit

/-!
# Tokens of a template

A template is text with tags in double braces. A tag is of one of two forms:

- a *cloze marker* begins with `c`, decimal digits and two colons, stays on one line, and ends at
  the first double brace after the colons, so that it may hold single closing braces;
- a *plain tag* is any run of characters without a closing brace, and ends at the double brace that
  follows it.

The first form is tried first. Tags are found from left to right; where none can start, characters
are literal, an unfinished opening included.

- `Token`: a stretch of literal text, or a tag.
- `tokenize`: the tokens of a template.
- `expand`: the template with each tag replaced.
-/

namespace Flashcard.Template

/-- A piece of a template. -/
inductive Token where
  /-- Literal text. -/
  | text (chars : List Char)
  /-- A tag, by what stands between its braces. -/
  | tag (inner : List Char)
  deriving Repr, DecidableEq

namespace Token

/-- The token as it stands in the template. -/
def raw : Token → List Char
  | text chars => chars
  | tag inner => '{' :: '{' :: (inner ++ ['}', '}'])

end Token

/-- The key of a tag: what it holds, without blank ends. -/
def keyOf (inner : List Char) : List Char := Text.trimChars inner

/-! ## Finding tags -/

/-- The characters before the first double closing brace, if there is one on this line. -/
def beforeClose? : List Char → Option (List Char)
  | '}' :: '}' :: _ => some []
  | '\n' :: _ => none
  | c :: rest => (beforeClose? rest).map (c :: ·)
  | [] => none

/-- The start of a cloze marker, up to its two colons. -/
def markerHead? : List Char → Option (List Char)
  | 'c' :: rest =>
    let digits := rest.takeWhile Text.isDigit
    match digits, rest.drop digits.length with
    | _ :: _, ':' :: ':' :: _ => some ('c' :: digits ++ [':', ':'])
    | _, _ => none
  | _ => none

/-- The inside of the cloze marker that starts after an opening. -/
def marker? (cs : List Char) : Option (List Char) :=
  match markerHead? cs with
  | none => none
  | some head => (beforeClose? (cs.drop head.length)).map (head ++ ·)

/-- The inside of the plain tag that starts after an opening. -/
def plain? (cs : List Char) : Option (List Char) :=
  let inner := cs.takeWhile (· ≠ '}')
  match inner, cs.drop inner.length with
  | _ :: _, '}' :: '}' :: _ => some inner
  | _, _ => none

/-- The inside of the tag that starts here, if one does. -/
def tag? : List Char → Option (List Char)
  | '{' :: '{' :: rest => (marker? rest).or (plain? rest)
  | _ => none

/-! ## Tokens -/

/-- Puts a literal character before tokens. -/
def consLiteral (c : Char) : List Token → List Token
  | .text chars :: tokens => .text (c :: chars) :: tokens
  | tokens => .text [c] :: tokens

/-- The tokens of `cs` after its first `passed` characters, which belong to a tag already found. -/
def scan : (passed : Nat) → List Char → List Token
  | _, [] => []
  | passed + 1, _ :: rest => scan passed rest
  | 0, c :: rest =>
    match tag? (c :: rest) with
    | some inner => .tag inner :: scan (inner.length + 3) rest
    | none => consLiteral c (scan 0 rest)

/-- The tokens of a template, from left to right. -/
def tokenize (template : String) : List Token := scan 0 template.toList

/-- The template with each tag replaced by what `substitute` gives for its inside. Replacements are
not searched for tags again. -/
def expandChars (substitute : List Char → List Char) (template : String) : List Char :=
  (tokenize template).flatMap fun
    | .text chars => chars
    | .tag inner => substitute inner

/-- `expandChars` as text. -/
def expand (substitute : List Char → List Char) (template : String) : String :=
  String.ofList (expandChars substitute template)

end Flashcard.Template
