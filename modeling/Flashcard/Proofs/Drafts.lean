import Flashcard.Compile
import Flashcard.Proofs.SortedMap
import Mathlib.Data.List.Nodup

/-!
# The drafts of a note

Where no two templates of a note type have one name, no two drafts of a note have one identity.

- `Cloze.nodup_ordinals`: cloze numbers are listed once.
- `NoteType.nodup_identities_drafts`: so are the identities of drafts.
-/

namespace Flashcard

theorem Cloze.nodup_ordinals (text : String) : (Cloze.ordinals text).Nodup :=
  SortedMap.nodup_keys _

namespace CardTemplate

variable (t : CardTemplate) (fields : FieldMap)

theorem templateName_of_mem_drafts {d : CardDraft} (h : d ∈ t.drafts fields) :
    d.templateName = t.name := by
  unfold drafts at h
  split at h
  · obtain ⟨_, -, rfl⟩ := List.mem_map.mp h
    rfl
  · split at h
    · obtain rfl := List.mem_singleton.mp h
      rfl
    · cases h

theorem nodup_identities_drafts : ((t.drafts fields).map CardDraft.identity).Nodup := by
  unfold drafts
  split
  · rw [List.map_map]
    refine (Cloze.nodup_ordinals _).map ?_
    intro ordinal ordinal' h
    exact congrArg CardIdentity.ordinal h
  · split
    · exact List.nodup_singleton _
    · exact List.nodup_nil

end CardTemplate

namespace NoteType

/-- **Drafts have different identities**, as the templates have different names. -/
theorem nodup_identities_drafts {nt : NoteType} (distinct : (nt.templates.map (·.name)).Nodup)
    (fields : FieldMap) : ((nt.drafts fields).map CardDraft.identity).Nodup := by
  rw [drafts, List.map_flatMap]
  -- drafts of two templates differ in the name, those of one template in the ordinal
  refine List.nodup_flatMap.mpr ⟨fun t _ => t.nodup_identities_drafts fields, ?_⟩
  refine (List.pairwise_map.mp distinct).imp fun {t t'} hname i hi hi' => hname ?_
  obtain ⟨d, hd, rfl⟩ := List.mem_map.mp hi
  obtain ⟨d', hd', hidentity⟩ := List.mem_map.mp hi'
  rw [← t.templateName_of_mem_drafts fields hd, ← t'.templateName_of_mem_drafts fields hd']
  exact congrArg CardIdentity.templateName hidentity.symm

/-- The drafts depend on the templates alone. -/
theorem drafts_congr {nt nt' : NoteType} (h : nt'.templates = nt.templates) (fields : FieldMap) :
    nt'.drafts fields = nt.drafts fields := by
  rw [drafts, h, drafts]

end NoteType

end Flashcard
