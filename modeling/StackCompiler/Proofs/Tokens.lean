import Mathlib.Data.List.TakeWhile
import StackCompiler.Text.Blank

/-!
# Tokens and the gaps between them

The tokens of a text are what is left of it between separators.  This file
shows how tokens are found in a text that is put together from gaps and words,
and that every text is put together in this way: its first token comes after a
gap, and a separator or the end of the text comes after its first token.
-/

namespace StackCompiler

namespace Text

variable {separates : Char → Bool}

/-- Whether a text holds nothing but separators. -/
def IsGap (separates : Char → Bool) (text : List Char) : Prop :=
  ∀ character ∈ text, separates character = true

instance (text : List Char) : Decidable (IsGap separates text) :=
  List.decidableBAll (fun character => separates character = true) text

/-- Whether a text is nonempty and free of separators. -/
def IsWord (separates : Char → Bool) (text : List Char) : Prop :=
  text ≠ [] ∧ ∀ character ∈ text, separates character = false

/-- Whether a word may end where the text begins: the text is empty or opens
with a separator. -/
def EndsWord (separates : Char → Bool) (text : List Char) : Prop :=
  ∀ character ∈ text.head?, separates character = true

theorem isWord_of_all {text : List Char}
    (bare : (!text.isEmpty && text.all fun character => !separates character) = true) :
    IsWord separates text := by
  simpa [IsWord] using bare

theorem IsGap.endsWord {gap : List Char} (isGap : IsGap separates gap) :
    EndsWord separates gap := by
  intro character isHead
  exact isGap character (List.mem_of_mem_head? isHead)

theorem IsGap.endsWord_append {gap : List Char} (isGap : IsGap separates gap)
    (nonempty : gap ≠ []) (rest : List Char) :
    EndsWord separates (gap ++ rest) := by
  intro character isHead
  cases gap with
  | nil => exact absurd rfl nonempty
  | cons first others =>
      have isFirst : first = character := by simpa using isHead
      exact isGap character (by simp [isFirst])

theorem cutAt_eq_splitOnP (text : List Char) :
    cutAt separates text = text.splitOnP separates := by
  induction text with
  | nil => simp [cutAt]
  | cons character rest ih =>
      rw [cutAt, List.splitOnP_cons_eq_if_modifyHead, ih]
      have nonempty := List.splitOnP_ne_nil separates rest
      split
      · rfl
      · cases pieces : rest.splitOnP separates with
        | nil => exact absurd pieces nonempty
        | cons piece others => rfl

/-- Text on two sides of a separator has its tokens on the two sides. -/
theorem tokens_append_separator {separator : Char}
    (isSeparator : separates separator = true) (front back : List Char) :
    tokens separates (front ++ separator :: back) =
      tokens separates front ++ tokens separates back := by
  simp only [tokens, cutAt_eq_splitOnP,
    List.splitOnP_append_cons front back isSeparator, List.filter_append]

@[simp]
theorem tokens_nil : tokens separates [] = [] :=
  rfl

theorem tokens_gap_append {gap : List Char} (isGap : IsGap separates gap)
    (text : List Char) :
    tokens separates (gap ++ text) = tokens separates text := by
  induction gap with
  | nil => rfl
  | cons separator rest ih =>
      have tailGap : IsGap separates rest := fun character member =>
        isGap character (List.mem_cons_of_mem separator member)
      have split := tokens_append_separator (isGap separator (by simp)) []
        (rest ++ text)
      rw [List.nil_append] at split
      rw [List.cons_append, split, ih tailGap]
      rfl

theorem tokens_gap {gap : List Char} (isGap : IsGap separates gap) :
    tokens separates gap = [] := by
  simpa using tokens_gap_append isGap []

theorem tokens_word {word : List Char} (isWord : IsWord separates word) :
    tokens separates word = [word] := by
  rw [tokens, cutAt_eq_splitOnP, List.splitOnP_eq_singleton isWord.2]
  simp [isWord.1]

theorem tokens_word_append {word rest : List Char}
    (isWord : IsWord separates word) (ends : EndsWord separates rest) :
    tokens separates (word ++ rest) = word :: tokens separates rest := by
  cases rest with
  | nil => simpa using tokens_word isWord
  | cons separator back =>
      have isSeparator : separates separator = true := ends separator rfl
      have behind := tokens_append_separator isSeparator [] back
      rw [List.nil_append] at behind
      rw [tokens_append_separator isSeparator, tokens_word isWord, behind]
      rfl

theorem exists_gap_run_rest (separates : Char → Bool) (text : List Char) :
    ∃ gap run rest, text = gap ++ (run ++ rest) ∧ IsGap separates gap ∧
      (∀ character ∈ run, separates character = false) ∧
      EndsWord separates rest ∧ (run = [] → rest = []) := by
  let afterGap := text.dropWhile separates
  let continues := fun character => !separates character
  refine ⟨text.takeWhile separates, afterGap.takeWhile continues,
    afterGap.dropWhile continues, ?_, ?_, ?_, ?_, ?_⟩
  · rw [List.takeWhile_append_dropWhile, List.takeWhile_append_dropWhile]
  · intro character member
    exact List.mem_takeWhile_imp member
  · intro character member
    have := List.mem_takeWhile_imp member
    simpa [continues] using this
  · intro character isHead
    have stopped := List.head?_dropWhile_not continues afterGap
    rw [Option.mem_def.mp isHead] at stopped
    simpa [continues] using stopped
  · intro noRun
    cases shape : afterGap with
    | nil => rfl
    | cons first others =>
        have stopped := List.head?_dropWhile_not separates text
        rw [show text.dropWhile separates = first :: others from shape] at stopped
        simp_all [continues]

theorem isGap_of_tokens_eq_nil {text : List Char}
    (none : tokens separates text = []) : IsGap separates text := by
  obtain ⟨gap, run, rest, rfl, isGap, unseparated, ends, empty⟩ :=
    exists_gap_run_rest separates text
  by_cases noRun : run = []
  · subst noRun
    rw [empty rfl]
    simpa using isGap
  · rw [tokens_gap_append isGap, tokens_word_append ⟨noRun, unseparated⟩ ends] at none
    simp at none

/-- The first token of a text comes after a gap and before a text that ends it
and holds the other tokens. -/
theorem exists_of_tokens_eq_cons {text word : List Char} {words : List (List Char)}
    (split : tokens separates text = word :: words) :
    ∃ gap rest, text = gap ++ (word ++ rest) ∧ IsGap separates gap ∧
      IsWord separates word ∧ EndsWord separates rest ∧
      tokens separates rest = words := by
  obtain ⟨gap, run, rest, rfl, isGap, unseparated, ends, empty⟩ :=
    exists_gap_run_rest separates text
  rw [tokens_gap_append isGap] at split
  by_cases noRun : run = []
  · subst noRun
    rw [empty rfl] at split
    simp at split
  · have isWord : IsWord separates run := ⟨noRun, unseparated⟩
    rw [tokens_word_append isWord ends] at split
    injection split with sameWord sameWords
    subst sameWord
    exact ⟨gap, rest, rfl, isGap, isWord, ends, sameWords⟩

theorem EndsWord.gap_ne_nil {gap text : List Char}
    (ends : EndsWord separates (gap ++ text)) {word rest : List Char}
    (isWord : IsWord separates word) (shape : text = word ++ rest) :
    gap ≠ [] := by
  rintro rfl
  obtain ⟨nonempty, unseparated⟩ := isWord
  cases word with
  | nil => exact nonempty rfl
  | cons first others =>
      have separated := ends first (by simp [shape])
      have unseparatedFirst := unseparated first (by simp)
      rw [separated] at unseparatedFirst
      cases unseparatedFirst

end Text

end StackCompiler
