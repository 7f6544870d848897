import Flashcard.Text.Blank

/-!
# Settings

What is the same for all commands of a user, taken from the environment.

- `Settings.ofVariables`: the settings of some environment variables.
-/

namespace Flashcard

/-- What is the same for all commands of a user. -/
structure Settings where
  /-- Where the collection is; nothing for the usual place. -/
  path : Option String := none
  /-- The deck of new notes for which none is given. -/
  defaultDeck : String := "Default"
  /-- The name of the scheduler. -/
  scheduler : String := "sm2"
  deriving Repr, DecidableEq

namespace Settings

/-- The variable that says where the collection is. -/
def pathVariable : String := "NOTECARDS_DB"

/-- The variable that names the default deck. -/
def deckVariable : String := "NOTECARDS_DEFAULT_DECK"

/-- The variable that names the scheduler. -/
def schedulerVariable : String := "NOTECARDS_SCHEDULER"

/-- The settings of some environment variables. A blank variable counts as not set. -/
def ofVariables (value? : String → Option String) : Settings :=
  let nonBlank (name : String) : Option String := (value? name).bind Text.nonBlank?
  let usual : Settings := {}
  { path := nonBlank pathVariable
    defaultDeck := (nonBlank deckVariable).getD usual.defaultDeck
    scheduler := (nonBlank schedulerVariable).getD usual.scheduler }

/-- The settings with another place for the collection, if one is given. -/
def withPath (s : Settings) (path : Option String) : Settings := { s with path := path.or s.path }

end Settings

end Flashcard
