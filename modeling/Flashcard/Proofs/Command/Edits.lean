import Flashcard.Command.Input
import Flashcard.Proofs.Document.NoteTypeEdit
import Flashcard.Proofs.Text

/-!
# Edits given to a command

An edit is given to a command as the text of its document, at once or in a file. Whatever blanks and
byte order marks surround the text, the command gets the edit that was written.

- `fileContent_append`: what counts of a file.
- `readEdit?_surrounded`: the text of an edit among blanks.

## Main statements

- `loadEdit_written`: an edit is loaded as it was written.
-/

namespace Flashcard

open Json

/-- A byte order mark. -/
def byteOrderMark : Char := '\uFEFF'

/-- The marks at the start of a file do not count. -/
theorem fileContent_append (marks : Nat) {text : String} (h : text.toList.head? ≠ some byteOrderMark) :
    fileContent (String.ofList (List.replicate marks byteOrderMark) ++ text) = Text.trim text := by
  have hmarks : ∀ c ∈ List.replicate marks byteOrderMark, decide (c = '\uFEFF') = true := fun c hc =>
    decide_eq_true (List.mem_replicate.mp hc).2
  have htext : text.toList.dropWhile (· = '\uFEFF') = text.toList := by
    cases hcs : text.toList with
    | nil => rfl
    | cons c cs =>
      refine List.dropWhile_cons_of_neg fun hc => h ?_
      rw [hcs, of_decide_eq_true hc]
      rfl
  rw [fileContent, String.toList_append, String.toList_ofList, List.dropWhile_append_of_pos hmarks,
    htext, String.ofList_toList]

namespace NoteTypeEdit

variable {e : NoteTypeEdit} {l : Layout} {text front : String}

/-- The document of an edit stands in braces. -/
theorem exists_layout (l : Layout) (e : NoteTypeEdit) :
    ∃ middle, layout l 0 e.toJson = '\x7b' :: middle ++ ['\x7d'] :=
  ⟨_, (layout_obj l 0 _ _).trans (by rw [← List.append_assoc]; rfl)⟩

theorem trim_surrounded {back : String} (htext : text.toList = layout l 0 e.toJson)
    (hfront : Text.allBlank front = true) (hback : Text.allBlank back = true) :
    Text.trim (front ++ text ++ back) = text := by
  obtain ⟨middle, hbraces⟩ := exists_layout l e
  rw [Text.trim, String.toList_append, String.toList_append, htext, hbraces,
    Text.trimChars_surrounded (List.all_eq_true.mp hfront) (List.all_eq_true.mp hback) (by decide)
      (by decide), ← hbraces, ← htext, String.ofList_toList]

theorem head?_surrounded (back : String) (htext : text.toList = layout l 0 e.toJson)
    (hfront : Text.allBlank front = true) :
    (front ++ text ++ back).toList.head? ≠ some byteOrderMark := by
  obtain ⟨middle, hbraces⟩ := exists_layout l e
  rw [String.toList_append, String.toList_append, htext, hbraces]
  cases hcs : front.toList with
  | nil =>
    show some '\x7b' ≠ some byteOrderMark
    decide
  | cons c cs =>
    have hblank := List.all_eq_true.mp hfront c (hcs ▸ List.mem_cons_self)
    rintro ⟨⟩
    revert hblank
    decide

theorem readEdit?_written (h : e.InRange) (htext : text.toList = layout l 0 e.toJson) :
    readEdit? text = some e := by
  rw [readEdit?, read?_layout (plain_toJson h) htext, Option.bind_some, ofJson?_toJson h]

end NoteTypeEdit

open NoteTypeEdit

section Load

variable {file? : String → Option String} {e : NoteTypeEdit} {text : String}

theorem loadEdit_of_text (h : readEdit? (Text.trim text) = some e) :
    loadEdit file? (some text) none = .ok e := by
  simp only [loadEdit, h]

/-- A file counts before a text. -/
theorem loadEdit_of_file {path : String} (edit : Option String) (hfile : file? path = some text)
    (h : readEdit? (fileContent text) = some e) : loadEdit file? edit (some path) = .ok e := by
  simp only [loadEdit, hfile, h]

end Load

/-- **An edit is loaded as it was written**, on one line or on many, at once or from a file, with blanks
around it and in a file behind byte order marks. Beside a file no text matters. -/
theorem loadEdit_written {e : NoteTypeEdit} (h : e.InRange) {text front back : String}
    (written : text ∈ [compact e.toJson, pretty e.toJson]) (hfront : Text.allBlank front = true)
    (hback : Text.allBlank back = true) (file? : String → Option String) :
    loadEdit file? (some (front ++ text ++ back)) none = .ok e ∧
      ∀ edit path marks,
        file? path = some (String.ofList (List.replicate marks byteOrderMark) ++ (front ++ text ++ back)) →
          loadEdit file? edit (some path) = .ok e := by
  obtain ⟨l, htext⟩ : ∃ l, text.toList = layout l 0 e.toJson := by
    rcases List.mem_cons.mp written with rfl | hpretty
    · exact ⟨.oneLine, compact_eq_layout 0 _⟩
    · obtain rfl := List.mem_singleton.mp hpretty
      exact ⟨.indented, prettyAt_eq_layout 0 _⟩
  have hread := readEdit?_written h htext
  have htrim := trim_surrounded htext hfront hback
  have hcontent := fun marks =>
    (fileContent_append marks (head?_surrounded back htext hfront)).trans htrim
  constructor
  · exact loadEdit_of_text (htrim.symm ▸ hread)
  · intro edit path marks hfile
    exact loadEdit_of_file edit hfile ((hcontent marks).symm ▸ hread)

/-- Options with the largest size of a font there is. -/
def NoteTypeEdit.largestFont : NoteTypeEdit :=
  .setFieldOptions "Front" { fontSize := some 0xFFFFFFFF, rtl := true }

/-- They are written without the font, which they leave open. -/
def NoteTypeEdit.largestFontText : String :=
  "\x7b\"op\":\"set_field_options\",\"field\":\"Front\"," ++
    "\"options\":\x7b\"font_size\":4294967295,\"rtl\":true,\"sticky\":false\x7d\x7d"

theorem loadEdit_written_largestFont :
    loadEdit (fun _ => none) (some (" " ++ largestFontText ++ "\n")) none = .ok largestFont ∧
      loadEdit (fun _ => some ("\uFEFF" ++ (" " ++ largestFontText ++ "\n"))) none
        (some "edit.json") = .ok largestFont := by
  have hrange : largestFont.InRange := by
    rintro _ ⟨⟩
    decide
  have hwritten : largestFontText ∈ [compact largestFont.toJson, pretty largestFont.toJson] := by
    have hcompact : compact largestFont.toJson = largestFontText := rfl
    rw [hcompact]
    exact List.mem_cons_self
  have hfront : Text.allBlank " " = true := by decide
  have hback : Text.allBlank "\n" = true := by decide
  have hload := loadEdit_written hrange hwritten hfront hback
  exact ⟨(hload fun _ => none).1, (hload _).2 none "edit.json" 1 rfl⟩

end Flashcard
