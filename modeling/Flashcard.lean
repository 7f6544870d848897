import Flashcard.Main
import Flashcard.Proofs.Agreement
import Flashcard.Proofs.AllOrNothing
import Flashcard.Proofs.Command.Failure
import Flashcard.Proofs.Command.Invariant
import Flashcard.Proofs.Memory.History
import Flashcard.Proofs.Memory.LiveCards
import Flashcard.Proofs.Memory.Marks
import Flashcard.Proofs.Memory.Piecewise
import Flashcard.Proofs.Memory.Record
import Flashcard.Proofs.Memory.Rename
import Flashcard.Proofs.Memory.Resumption
import Flashcard.Proofs.Memory.Scope
import Flashcard.Proofs.Tables.Acceptance
import Flashcard.Proofs.Tables.ReadBack
import Flashcard.Proofs.Template.Renaming
import Flashcard.Proofs.Template.Tokens
import Flashcard.Proofs.WellFormed
import Flashcard.Store.Memory
import Flashcard.Store.Tables.Damage
import Flashcard.Proofs.Cloze.Numbers
import Flashcard.Proofs.Cloze.Masking
import Flashcard.Proofs.Cloze.Grammar
import Flashcard.Proofs.Cloze.RoundTrip
import Flashcard.Proofs.Template.FieldName
import Flashcard.Proofs.DeckStats
import Flashcard.Proofs.DueQueue
import Flashcard.Proofs.Scheduling.Run
import Flashcard.Proofs.Tables.DueQueue
import Flashcard.Proofs.Producible
import Flashcard.Proofs.Referenced
import Flashcard.Proofs.Memory.DeckStats
import Flashcard.Proofs.Memory.Sweep
import Flashcard.Proofs.Json.RoundTrip
import Flashcard.Proofs.Document.NoteTypeEdit
import Flashcard.Proofs.Command.Edits
