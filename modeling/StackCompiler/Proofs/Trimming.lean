import StackCompiler.Proofs.Tokens

/-!
# Trimmed texts

Source lines and lines of assembly are both trimmed before they are read.
Trimming drops the blanks at the two ends of a text and nothing else, so a text
that neither starts nor ends with a blank is left alone, and blanks that are put
around a text are dropped again.
-/

namespace StackCompiler

namespace Text

/-- What is dropped by trimming are blanks before and after what is kept. -/
theorem exists_trim_parts (text : List Char) :
    ∃ before after, IsGap isBlank before ∧ IsGap isBlank after ∧
      text = before ++ (trim text ++ after) := by
  let opened := text.dropWhile isBlank
  let dropped := opened.reverse.takeWhile isBlank
  have closing : opened = trim text ++ dropped.reverse := by
    rw [trim, trimWhere, ← List.reverse_append, List.takeWhile_append_dropWhile,
      List.reverse_reverse]
  refine ⟨text.takeWhile isBlank, dropped.reverse, ?_, ?_, ?_⟩
  · intro character member
    exact List.mem_takeWhile_imp member
  · intro character member
    exact List.mem_takeWhile_imp (List.mem_reverse.mp member)
  · rw [← closing, List.takeWhile_append_dropWhile]

theorem trim_isInfix (text : List Char) : trim text <:+: text := by
  obtain ⟨before, after, _, _, parts⟩ := exists_trim_parts text
  exact ⟨before, after, by rw [List.append_assoc, ← parts]⟩

theorem getLast?_trim (text : List Char) :
    ∀ character ∈ (trim text).getLast?, isBlank character = false := by
  intro character isLast
  rw [trim, trimWhere, List.getLast?_reverse] at isLast
  have stopped := List.head?_dropWhile_not isBlank (text.dropWhile isBlank).reverse
  rw [Option.mem_def.mp isLast] at stopped
  simpa using stopped

theorem head?_trim (text : List Char) :
    ∀ character ∈ (trim text).head?, isBlank character = false := by
  intro character isFirst
  have kept : trim text <+: text.dropWhile isBlank := by
    rw [trim, trimWhere, ← List.reverse_suffix, List.reverse_reverse]
    exact List.dropWhile_suffix isBlank
  obtain ⟨rest, parts⟩ := kept
  have stopped := List.head?_dropWhile_not isBlank text
  rw [← parts, List.head?_append, Option.mem_def.mp isFirst] at stopped
  simpa using stopped

/-- Nothing is left of a text by trimming if only blanks are left. -/
theorem trim_eq_nil_of_blank {text : List Char}
    (blank : ∀ character ∈ trim text, isBlank character = true) : trim text = [] := by
  cases left : trim text with
  | nil => rfl
  | cons first others =>
      have visible := head?_trim text first (by simp [left])
      rw [blank first (by simp [left])] at visible
      cases visible

theorem trim_eq_self {text : List Char}
    (first : ∀ character ∈ text.head?, isBlank character = false)
    (last : ∀ character ∈ text.getLast?, isBlank character = false) :
    trim text = text := by
  have keeps : ∀ characters : List Char,
      (∀ character ∈ characters.head?, isBlank character = false) →
        characters.dropWhile isBlank = characters := by
    intro characters unblank
    cases characters with
    | nil => rfl
    | cons character rest =>
        rw [List.dropWhile_cons, unblank character rfl]
        rfl
  rw [trim, trimWhere, keeps text first,
    keeps text.reverse (by simpa using last), List.reverse_reverse]

theorem trim_gap_append {blanks : List Char} (isGap : IsGap isBlank blanks)
    (text : List Char) : trim (blanks ++ text) = trim text := by
  rw [trim, trim, trimWhere, trimWhere, List.dropWhile_append_of_pos isGap]

theorem trim_append_gap (text : List Char) {blanks : List Char}
    (isGap : IsGap isBlank blanks) : trim (text ++ blanks) = trim text := by
  have gone : ∀ gap : List Char, IsGap isBlank gap → gap.dropWhile isBlank = [] := by
    intro gap isGap
    exact List.dropWhile_eq_nil_iff.mpr isGap
  rw [trim, trim, trimWhere, trimWhere, List.dropWhile_append]
  split
  next empty =>
    rw [gone blanks isGap, List.isEmpty_iff.mp empty]
  next =>
    have reversed : IsGap isBlank blanks.reverse := fun character member =>
      isGap character (List.mem_reverse.mp member)
    rw [List.reverse_append, List.dropWhile_append, gone blanks.reverse reversed]
    simp

theorem exists_trim_cons_cons {first second : Char}
    (firstVisible : isBlank first = false) (secondVisible : isBlank second = false)
    (rest : List Char) :
    ∃ kept, trim (first :: second :: rest) = first :: second :: kept := by
  have front : (first :: second :: rest).dropWhile isBlank =
      first :: second :: rest := by
    rw [List.dropWhile_cons, firstVisible]
    rfl
  have back : ([second, first] : List Char).dropWhile isBlank =
      [second, first] := by
    rw [List.dropWhile_cons, secondVisible]
    rfl
  rw [trim, trimWhere, front]
  have reversed : (first :: second :: rest).reverse =
      rest.reverse ++ [second, first] := by
    simp
  rw [reversed, List.dropWhile_append, back]
  split
  · exact ⟨[], rfl⟩
  · exact ⟨(rest.reverse.dropWhile isBlank).reverse, by simp⟩

end Text

end StackCompiler
