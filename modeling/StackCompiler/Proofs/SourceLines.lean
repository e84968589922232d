import Mathlib.Data.List.Basic
import StackCompiler.Source

/-!
# The lines of a source

Source lines are the lines with something left after cleaning, numbered by
their places in the whole source.  This file says which lines they are and that
they keep their order.
-/

namespace StackCompiler

/-- Whether the line at a place, counted from one, has the given text left after
cleaning. -/
def HoldsAt (lines : List String) (number : Nat) (text : String) : Prop :=
  ∃ index raw, lines[index]? = some raw ∧ number = index + 1 ∧
    text = cleanLine raw ∧ text ≠ ""

/-- The cleaned lines with something left, in order. -/
def cleanedLines (lines : List String) : List String :=
  (lines.map cleanLine).filter fun text => !text.isEmpty

theorem zipIdx_pairwise_lt (texts : List String) (start : Nat) :
    (texts.zipIdx start).Pairwise fun earlier later => earlier.2 < later.2 := by
  induction texts generalizing start with
  | nil => exact List.Pairwise.nil
  | cons text texts ih =>
      rw [List.zipIdx_cons]
      refine List.Pairwise.cons ?_ (ih (start + 1))
      intro later member
      exact List.le_snd_of_mem_zipIdx member

theorem sourceLines_pairwise (lines : List String) :
    (sourceLines lines).Pairwise fun earlier later =>
      earlier.number < later.number := by
  refine List.Pairwise.filterMap _ ?_ (zipIdx_pairwise_lt (lines.map cleanLine) 1)
  rintro ⟨earlier, first⟩ ⟨later, second⟩ ordered line kept other otherKept
  dsimp only at kept otherKept ordered
  split at kept
  · cases kept
  · split at otherKept
    · cases otherKept
    · cases kept
      cases otherKept
      exact ordered

/-- The source lines are the lines with something left, at their places. -/
theorem mem_sourceLines_iff {lines : List String} {number : Nat} {text : String} :
    ⟨number, text⟩ ∈ sourceLines lines ↔ HoldsAt lines number text := by
  simp only [sourceLines, List.mem_filterMap, HoldsAt, Prod.exists,
    List.mk_mem_zipIdx_iff_le_and_getElem?_sub, List.getElem?_map,
    Option.map_eq_some_iff]
  constructor
  · rintro ⟨cleaned, place, ⟨positive, raw, found, rfl⟩, kept⟩
    split at kept
    · cases kept
    · rename_i nonempty
      cases kept
      refine ⟨number - 1, raw, found, by omega, rfl, ?_⟩
      simpa using nonempty
  · rintro ⟨index, raw, found, rfl, rfl, nonempty⟩
    refine ⟨cleanLine raw, index + 1, ⟨by omega, raw, by simpa using found, rfl⟩, ?_⟩
    rw [if_neg (by simpa using nonempty)]

theorem sourceLines_map_text (lines : List String) :
    (sourceLines lines).map SourceLine.text = cleanedLines lines := by
  let kept := fun text : String => if !text.isEmpty then some text else none
  have forgetsPlace : ∀ numbered : String × Nat,
      Option.map SourceLine.text
          (if numbered.1.isEmpty then none else some ⟨numbered.2, numbered.1⟩) =
        kept numbered.1 := by
    intro numbered
    by_cases empty : numbered.1 = "" <;> simp [kept, empty]
  calc
    (sourceLines lines).map SourceLine.text =
        ((lines.map cleanLine).zipIdx 1).filterMap (kept ∘ Prod.fst) := by
      rw [sourceLines, List.map_filterMap]
      congr 1
      funext numbered
      exact forgetsPlace numbered
    _ = (lines.map cleanLine).filterMap kept := by
      rw [← List.filterMap_map, List.zipIdx_map_fst]
    _ = cleanedLines lines := by
      rw [cleanedLines, ← List.filterMap_eq_filter]
      rfl

end StackCompiler
