import StackCompiler.Proofs.Trimming
import StackCompiler.Source

/-!
# Cleaned lines

Cleaning cuts a line at its first comment mark, which is two slashes in a row,
and trims what comes before the mark.  The lines that it leaves alone are those
without a mark and without a blank at either end, and it turns every line into
one of them.  Comments after a line and blanks around it are dropped.  Only a
slash at the end of a line stands in the way: a mark that is put after it begins
one character earlier.
-/

namespace StackCompiler

theorem Text.getLast?_ne_of_cons {first last : Char} {rest : List Char}
    (unlike : (first :: rest).getLast? ≠ some last) : rest.getLast? ≠ some last := by
  intro isLast
  rw [List.getLast?_cons, isLast] at unlike
  exact unlike rfl

theorem cutComment_cons {character : Char} {rest : List Char}
    (unpaired : character = '/' → rest.head? ≠ some '/') :
    cutComment (character :: rest) = character :: cutComment rest := by
  rw [cutComment]
  rintro after isSlash rfl
  exact unpaired isSlash rfl

/-- What is cut off is a comment, if there is one. -/
theorem exists_comment (text : List Char) :
    text = cutComment text ∨
      ∃ comment, text = cutComment text ++ '/' :: '/' :: comment := by
  fun_induction cutComment text with
  | case1 => exact Or.inl rfl
  | case2 comment => exact Or.inr ⟨comment, rfl⟩
  | case3 character rest _ ih =>
      rcases ih with whole | ⟨comment, parts⟩
      · exact Or.inl (by rw [← whole])
      · exact Or.inr ⟨comment, by rw [List.cons_append, ← parts]⟩

theorem cutComment_isPrefix (text : List Char) : cutComment text <+: text := by
  rcases exists_comment text with whole | ⟨comment, parts⟩
  · exact ⟨[], by rw [List.append_nil, ← whole]⟩
  · exact ⟨_, parts.symm⟩

/-- No comment mark is left before the cut. -/
theorem cutComment_unmarked (text : List Char) : ¬ ['/', '/'] <:+: cutComment text := by
  fun_induction cutComment text with
  | case1 | case2 => simp
  | case3 character rest unpaired ih =>
      rw [List.infix_cons_iff]
      rintro (opens | inside)
      · obtain ⟨isSlash, next⟩ := List.cons_prefix_cons.mp opens
        obtain ⟨others, rfl⟩ := next.trans (cutComment_isPrefix rest)
        exact unpaired others isSlash.symm rfl
      · exact ih inside

theorem cutComment_of_unmarked {text : List Char} (unmarked : ¬ ['/', '/'] <:+: text) :
    cutComment text = text := by
  rcases exists_comment text with whole | ⟨comment, parts⟩
  · exact whole.symm
  · exact absurd ⟨cutComment text, comment, by simpa using parts.symm⟩ unmarked

theorem unmarked_of_slashless {text : List Char} (slashless : '/' ∉ text) :
    ¬ ['/', '/'] <:+: text := fun marked =>
  slashless (marked.subset (by simp))

/-- A comment is cut off where its two slashes stand, unless a slash before
them is the first of two. -/
theorem cutComment_append_comment {front : List Char}
    (unslashed : front.getLast? ≠ some '/') (comment : List Char) :
    cutComment (front ++ '/' :: '/' :: comment) = cutComment front := by
  fun_induction cutComment front with
  | case1 => rfl
  | case2 rest => rfl
  | case3 character rest unpaired ih =>
      rw [List.cons_append, cutComment_cons, ih (Text.getLast?_ne_of_cons unslashed)]
      rintro rfl
      cases rest with
      | nil => exact absurd rfl unslashed
      | cons next others =>
          rintro ⟨⟩
          exact unpaired others rfl rfl

theorem cutComment_slashless_append {front : List Char} (slashless : '/' ∉ front)
    (back : List Char) : cutComment (front ++ back) = front ++ cutComment back := by
  induction front with
  | nil => rfl
  | cons character rest ih =>
      rw [List.mem_cons, not_or] at slashless
      rw [List.cons_append, cutComment_cons, ih slashless.2, List.cons_append]
      exact fun isSlash => absurd isSlash.symm slashless.1

theorem cutComment_append_slashless (front : List Char) {back : List Char}
    (slashless : '/' ∉ back) :
    cutComment (front ++ back) = cutComment front ∨
      cutComment (front ++ back) = cutComment front ++ back := by
  fun_induction cutComment front with
  | case1 => exact Or.inr (cutComment_of_unmarked (unmarked_of_slashless slashless))
  | case2 rest => exact Or.inl rfl
  | case3 character rest unpaired ih =>
      have kept : cutComment (character :: (rest ++ back)) =
          character :: cutComment (rest ++ back) := by
        apply cutComment_cons
        rintro rfl isSlash
        cases rest with
        | nil => exact slashless (List.mem_of_mem_head? isSlash)
        | cons next others =>
            injection isSlash with isSlash
            exact unpaired others rfl (by rw [isSlash])
      rw [List.cons_append, kept, List.cons_append]
      rcases ih with same | longer
      · exact Or.inl (by rw [same])
      · exact Or.inr (by rw [longer])

/-- Whether a line holds no comment mark and neither starts nor ends with a
blank. -/
structure IsClean (line : String) : Prop where
  unmarked : ¬ ['/', '/'] <:+: line.toList
  first : ∀ character ∈ line.toList.head?, Text.isBlank character = false
  last : ∀ character ∈ line.toList.getLast?, Text.isBlank character = false

theorem isClean_cleanLine (raw : String) : IsClean (cleanLine raw) := by
  have characters : (cleanLine raw).toList = Text.trim (cutComment raw.toList) := by
    rw [cleanLine, String.toList_ofList]
  constructor
  · rw [characters]
    exact fun marked => cutComment_unmarked _ (marked.trans (Text.trim_isInfix _))
  · rw [characters]
    exact Text.head?_trim _
  · rw [characters]
    exact Text.getLast?_trim _

theorem IsClean.cleanLine_eq {line : String} (clean : IsClean line) :
    cleanLine line = line := by
  rw [cleanLine, cutComment_of_unmarked clean.unmarked,
    Text.trim_eq_self clean.first clean.last, String.ofList_toList]

/-- Cleaning leaves a line as it is that holds no slash and neither starts nor
ends with a blank. -/
theorem cleanLine_eq_self {line : String} (slashless : '/' ∉ line.toList)
    (first : ∀ character ∈ line.toList.head?, Text.isBlank character = false)
    (last : ∀ character ∈ line.toList.getLast?, Text.isBlank character = false) :
    cleanLine line = line :=
  IsClean.cleanLine_eq ⟨unmarked_of_slashless slashless, first, last⟩

theorem cleanLine_append_comment {raw : String} (unslashed : raw.toList.getLast? ≠ some '/')
    (comment : String) : cleanLine (raw ++ "//" ++ comment) = cleanLine raw := by
  have characters : (raw ++ "//" ++ comment).toList =
      raw.toList ++ '/' :: '/' :: comment.toList := by
    simp
  rw [cleanLine, characters, cutComment_append_comment unslashed, cleanLine]

section Blanks

variable {blanks : String} (areBlank : Text.IsGap Text.isBlank blanks.toList)
include areBlank

theorem slash_notMem_blanks : '/' ∉ blanks.toList := fun member =>
  absurd (areBlank '/' member) (by decide)

theorem cleanLine_blanks_append (raw : String) :
    cleanLine (blanks ++ raw) = cleanLine raw := by
  rw [cleanLine, String.toList_append,
    cutComment_slashless_append (slash_notMem_blanks areBlank),
    Text.trim_gap_append areBlank, cleanLine]

theorem cleanLine_append_blanks (raw : String) :
    cleanLine (raw ++ blanks) = cleanLine raw := by
  rw [cleanLine, cleanLine, String.toList_append]
  rcases cutComment_append_slashless raw.toList (slash_notMem_blanks areBlank) with
    same | longer
  · rw [same]
  · rw [longer, Text.trim_append_gap _ areBlank]

theorem cleanLine_blanks : cleanLine blanks = "" := by
  have empty : cleanLine "" = "" := by decide
  simpa [empty] using cleanLine_blanks_append areBlank ""

end Blanks

/-- Whether a line is blank up to a comment, or up to its end if it has none. -/
def IsVacant (line : String) : Prop :=
  ∃ blanks, Text.IsGap Text.isBlank blanks.toList ∧
    (line = blanks ∨ ∃ comment, line = blanks ++ "//" ++ comment)

theorem IsVacant.blanks_append {blanks line : String}
    (areBlank : Text.IsGap Text.isBlank blanks.toList) (vacant : IsVacant line) :
    IsVacant (blanks ++ line) := by
  obtain ⟨others, othersBlank, parts⟩ := vacant
  refine ⟨blanks ++ others, ?_, ?_⟩
  · intro character member
    rw [String.toList_append, List.mem_append] at member
    exact member.elim (areBlank character) (othersBlank character)
  · rcases parts with rfl | ⟨comment, rfl⟩
    · exact Or.inl rfl
    · exact Or.inr ⟨comment, by simp only [String.append_assoc]⟩

/-- Cleaning drops blanks before what it keeps, and blanks and a comment after
it.  It drops nothing else. -/
theorem exists_cleanLine_parts (raw : String) :
    ∃ before after, Text.IsGap Text.isBlank before.toList ∧ IsVacant after ∧
      raw = before ++ cleanLine raw ++ after := by
  obtain ⟨before, blanks, blankBefore, areBlank, kept⟩ :=
    Text.exists_trim_parts (cutComment raw.toList)
  rcases exists_comment raw.toList with whole | ⟨comment, parts⟩
  · refine ⟨String.ofList before, String.ofList blanks, by simpa using blankBefore,
      ⟨String.ofList blanks, by simpa using areBlank, Or.inl rfl⟩, ?_⟩
    apply String.toList_injective
    simpa [cleanLine] using whole.trans kept
  · refine ⟨String.ofList before, String.ofList blanks ++ "//" ++ String.ofList comment,
      by simpa using blankBefore,
      ⟨String.ofList blanks, by simpa using areBlank, Or.inr ⟨_, rfl⟩⟩, ?_⟩
    apply String.toList_injective
    rw [kept] at parts
    simpa [cleanLine] using parts

/-- Nothing is left exactly of the vacant lines. -/
theorem cleanLine_eq_empty_iff_isVacant {raw : String} :
    cleanLine raw = "" ↔ IsVacant raw := by
  constructor
  · intro empty
    obtain ⟨before, after, blankBefore, vacant, parts⟩ := exists_cleanLine_parts raw
    rw [empty, String.append_empty] at parts
    rw [parts]
    exact vacant.blanks_append blankBefore
  · rintro ⟨blanks, areBlank, rfl | ⟨comment, rfl⟩⟩
    · exact cleanLine_blanks areBlank
    · have unslashed : blanks.toList.getLast? ≠ some '/' := fun isLast =>
        slash_notMem_blanks areBlank (List.mem_of_mem_getLast? isLast)
      rw [cleanLine_append_comment unslashed, cleanLine_blanks areBlank]

/-- Cleaning is a projection onto the clean lines.  What it makes of a line is
clean and is left alone from then on, and what it drops are blanks on both sides
and a comment behind them.  A comment after a line makes no difference unless the
line ends with a slash, and blanks before or after a line make none.  Nothing is
left exactly of the lines that are blank up to their comment. -/
theorem cleaning_is_projection :
    (∀ raw : String, cleanLine (cleanLine raw) = cleanLine raw ∧
      IsClean (cleanLine raw) ∧
      ∃ before after, Text.IsGap Text.isBlank before.toList ∧ IsVacant after ∧
        raw = before ++ cleanLine raw ++ after) ∧
    (∀ raw comment : String, raw.toList.getLast? ≠ some '/' →
      cleanLine (raw ++ "//" ++ comment) = cleanLine raw) ∧
    (∀ blanks raw : String, Text.IsGap Text.isBlank blanks.toList →
      cleanLine (blanks ++ raw) = cleanLine raw ∧
        cleanLine (raw ++ blanks) = cleanLine raw) ∧
    ∀ raw : String, cleanLine raw = "" ↔ IsVacant raw := by
  refine ⟨?_, ?_, ?_, fun raw => cleanLine_eq_empty_iff_isVacant⟩
  · intro raw
    have clean := isClean_cleanLine raw
    exact ⟨clean.cleanLine_eq, clean, exists_cleanLine_parts raw⟩
  · intro raw comment unslashed
    exact cleanLine_append_comment unslashed comment
  · intro blanks raw areBlank
    exact ⟨cleanLine_blanks_append areBlank raw, cleanLine_append_blanks areBlank raw⟩

-- After a slash, the mark begins with that slash.
example : cleanLine ("add/" ++ "//" ++ " sum") ≠ cleanLine "add/" := by
  decide

/-- A line with single slashes in it and blanks of several kinds around it, before
a comment that starts with a third slash. -/
theorem cleaning_is_projection_slashed :
    let raw := "\u3000push / constant/7\u00a0"
    let blanks := "\t\u2003\x0c"
    raw.toList.getLast? ≠ some '/' ∧ Text.IsGap Text.isBlank blanks.toList ∧
      cleanLine (raw ++ "//" ++ "/ seven // 7") = "push / constant/7" ∧
      cleanLine (blanks ++ raw) = "push / constant/7" ∧
      cleanLine (raw ++ blanks) = "push / constant/7" := by
  intro raw blanks
  have unslashed : raw.toList.getLast? ≠ some '/' := by
    decide
  have areBlank : Text.IsGap Text.isBlank blanks.toList := by
    decide
  have cleaned : cleanLine raw = "push / constant/7" := by
    decide
  obtain ⟨_, commented, blanked, _⟩ := cleaning_is_projection
  obtain ⟨before, after⟩ := blanked blanks raw areBlank
  exact ⟨unslashed, areBlank, (commented raw _ unslashed).trans cleaned,
    before.trans cleaned, after.trans cleaned⟩

end StackCompiler
