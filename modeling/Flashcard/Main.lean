import Flashcard.Command.Run
import Flashcard.Document.Tables
import Flashcard.Json.Printer
import Std.Time.DateTime.Timestamp

/-!
# The program

Runs the command of its arguments on the collection in a file and prints the document of the
command. What the command changed is written back, also if it failed later on.
-/

namespace Flashcard

/-- The file of the collection unless the user names another. -/
def usualPath : String := "flashcards.json"

/-- Prints a complaint and gives an exit code. -/
def complain (code : UInt32) (message : String) : IO UInt32 := do
  (← IO.getStderr).putStrLn ("error: " ++ message)
  pure code

/-- The text of a file, if the file is there. -/
def textOf (path : String) : IO (Option String) := do
  try
    pure (some (← IO.FS.readFile path))
  catch
    | .noFileOrDirectory .. => pure none
    | e => throw e

/-- The collection in a file; an empty one if there is no file, and nothing if the file holds
something else. -/
def collectionIn (path : String) : IO (Option Tables) := do
  match ← textOf path with
  | none => pure (some {})
  | some text => pure ((Json.read? text).bind Tables.ofJson?)

/-- The time now. -/
def currentTime : IO Timestamp := do
  let passed := (← Std.Time.Timestamp.now).val
  pure ⟨passed.second.val, passed.nano.val.toNat⟩

/-- The settings of the environment. -/
def currentSettings : IO Settings := do
  let names := [Settings.pathVariable, Settings.deckVariable, Settings.schedulerVariable]
  let values ← names.mapM fun name => do pure (name, ← IO.getEnv name)
  pure (Settings.ofVariables fun name => (values.lookup name).join)

/-- The texts of the files that a command reads. A file that cannot be read has none. -/
def filesOf : Command → IO (String → Option String)
  | .editType _ _ (some path) => do
    let text ← try textOf path catch _ => pure none
    pure fun name => if name = path then text else none
  | _ => pure fun _ => none

/-- Runs a command on the collection in a file. -/
def runOn (settings : Settings) (path : String) (command : Command) : IO UInt32 := do
  match ← collectionIn path with
  | none => complain 1 ("open collection failed: " ++ path)
  | some before =>
    match before.reopen with
    | .error e => complain 1 ("open collection failed: " ++ path ++ ": " ++ e.message)
    | .ok before =>
      let now ← currentTime
      let file? ← filesOf command
      match Command.runWith Tables.store settings path now file? command before with
      | .ok shown after =>
        IO.FS.writeFile path (Json.pretty after.toJson)
        IO.println (Json.pretty shown)
        pure 0
      | .error e after =>
        IO.FS.writeFile path (Json.pretty after.toJson)
        complain 1 e.message

end Flashcard

open Flashcard in
/-- Runs the command of the arguments. -/
def main (arguments : List String) : IO UInt32 := do
  match CommandLine.read arguments with
  | .error .help => do
    commandForms.forM fun form => IO.println form.name
    pure 0
  | .error e => complain 2 e.message
  | .ok line => do
    let settings := (← currentSettings).withPath line.path
    runOn settings (settings.path.getD usualPath) line.command
