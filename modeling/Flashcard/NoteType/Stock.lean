import Flashcard.NoteType.Basic

/-!
# Stock note types

The note types that a new collection starts with.

- `NoteType.stock`: all of them, in the order of their display.
-/

namespace Flashcard.NoteType

/-- One card that asks for the back. -/
def basic : NoteType where
  name := "Basic"
  fields := ["Front", "Back"]
  templates := [{ name := "Card 1", question := "Q: {{Front}}", answer := "A: {{Back}}" }]

/-- Two cards, one in each direction. -/
def basicReversed : NoteType where
  name := "Basic (and reversed card)"
  fields := ["Front", "Back"]
  templates := [
    { name := "Card 1", question := "Q: {{Front}}", answer := "A: {{Back}}" },
    { name := "Card 2", question := "Q: {{Back}}", answer := "A: {{Front}}" }]

/-- The second direction only where the note asks for it. -/
def basicOptionalReversed : NoteType where
  name := "Basic (optional reversed card)"
  fields := ["Front", "Back", "Add Reverse"]
  templates := [
    { name := "Card 1", question := "Q: {{Front}}", answer := "A: {{Back}}" },
    { name := "Card 2 (optional reverse)", question := "Q: {{Back}}", answer := "A: {{Front}}",
      gate := some "Add Reverse" }]

/-- One card whose back is to be typed in. -/
def basicTypeAnswer : NoteType where
  name := "Basic (type in the answer)"
  fields := ["Front", "Back"]
  templates := [
    { name := "Card 1", question := "Q: {{Front}}\n\n{{type:Back}}", answer := "A: {{Back}}" }]

/-- One card for each gap in a text. -/
def cloze : NoteType where
  name := "Cloze"
  fields := ["Text", "Extra"]
  templates := [
    { name := "Cloze", question := "Q: {{cloze:Text}}",
      answer := "A: {{cloze:Text}}\n\nExtra: {{Extra}}", isCloze := true }]

/-- All stock note types, in the order of their display. -/
def stock : List NoteType :=
  [basic, basicReversed, basicOptionalReversed, basicTypeAnswer, cloze]

end Flashcard.NoteType
