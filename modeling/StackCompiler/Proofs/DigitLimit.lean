import StackCompiler.Proofs.CompilationExact
import StackCompiler.Proofs.LineCleaning
import StackCompiler.Proofs.PrintedCode

/-!
# What escapes from reading a line

A bad line is reported, and the lines after it are still looked at.  There is
one exception: an index with more digits than a numeral may have is neither
read nor reported, and it ends the whole compilation.  This file shows that
nothing else escapes, and gives a line that does.
-/

namespace StackCompiler

namespace Command

/-- A line escapes exactly if it spells a sentence with an index beyond the
digit limit. -/
theorem exists_parse_eq_oversize_iff {line : String} :
    (∃ oversize, parse line = .error (.oversizeIndex oversize)) ↔
      ¬ ShortIndex line := by
  constructor
  · rintro ⟨oversize, escaped⟩ short
    rcases parse_ok_or_malformed short with ⟨command, parsed⟩ | ⟨cause, parsed⟩
    · rw [escaped] at parsed
      cases parsed
    · rw [escaped] at parsed
      cases parsed
  · intro long
    simp only [ShortIndex, not_forall] at long
    obtain ⟨sentence, spelled, sentenceLong⟩ := long
    obtain ⟨oversize, escaped⟩ := Sentence.command_of_not_short sentenceLong
    exact ⟨oversize, by rw [parse_of_spelledBy spelled, escaped]⟩

theorem parse_ok_or_malformed_iff {line : String} :
    ((∃ command, parse line = .ok command) ∨
      ∃ cause, parse line = .error (.malformed cause)) ↔ ShortIndex line := by
  constructor
  · intro settled
    by_contra long
    obtain ⟨oversize, escaped⟩ := exists_parse_eq_oversize_iff.mpr long
    rcases settled with ⟨command, parsed⟩ | ⟨cause, parsed⟩
    · rw [escaped] at parsed
      cases parsed
    · rw [escaped] at parsed
      cases parsed
  · exact parse_ok_or_malformed

/-- An index that no instruction can load is reported as such exactly if it
keeps to the digit limit. -/
theorem indexTooLarge_iff {line : String} {sentence : Sentence}
    (spelled : sentence.SpelledBy line.toList) (large : ¬ sentence.IsLoadable) :
    (∃ index, parse line = .error (.malformed (.indexTooLarge index))) ↔
      sentence.IsShort := by
  rw [parse_of_spelledBy spelled]
  constructor
  · rintro ⟨index, reported⟩
    by_contra long
    obtain ⟨oversize, escaped⟩ := Sentence.command_of_not_short long
    rw [escaped] at reported
    cases reported
  · exact fun short => Sentence.command_of_not_loadable short large

end Command

theorem SourceLine.oversize?_eq_none_iff {line : SourceLine} :
    line.oversize? = none ↔ Command.ShortIndex line.text := by
  constructor
  · intro sized
    by_contra long
    obtain ⟨oversize, escaped⟩ := Command.exists_parse_eq_oversize_iff.mpr long
    rw [SourceLine.oversize?, escaped] at sized
    cases sized
  · exact oversize?_eq_none

/-- The source lines keep to the digit limit exactly if all lines do: a line
with nothing left after cleaning has no index. -/
theorem shortIndex_sourceLines_iff {lines : List String} :
    (∀ line ∈ sourceLines lines, Command.ShortIndex line.text) ↔
      ∀ raw ∈ lines, Command.ShortIndex (cleanLine raw) := by
  constructor
  · intro short raw member
    by_cases empty : cleanLine raw = ""
    · rw [empty]
      exact Command.shortIndex_of_length (by decide)
    · obtain ⟨place, inside, rfl⟩ := List.mem_iff_getElem.mp member
      have holds : HoldsAt lines (place + 1) (cleanLine lines[place]) :=
        ⟨place, lines[place], List.getElem?_eq_getElem inside, rfl, rfl, empty⟩
      exact short ⟨place + 1, cleanLine lines[place]⟩ (mem_sourceLines_iff.mpr holds)
  · intro short line member
    exact shortIndex_of_mem_sourceLines short member

theorem exists_compile_eq_ok_iff (script : String) (policy : StaticPolicy)
    (lines : List String) :
    (∃ compilation, compile script policy lines = .ok compilation) ↔
      ∀ raw ∈ lines, Command.ShortIndex (cleanLine raw) := by
  rw [← shortIndex_sourceLines_iff]
  constructor
  · rintro ⟨compilation, compiled⟩ line member
    have sized := (compile_eq_ok_iff.mp compiled).1 line member
    exact SourceLine.oversize?_eq_none_iff.mp sized
  · intro short
    obtain ⟨compilation, compiled, _⟩ := exists_compile_eq_ok script policy
      fun line member => SourceLine.oversize?_eq_none (short line member)
    exact ⟨compilation, compiled⟩

/-- Only an index beyond the digit limit escapes.  Every other line is read as a
command or reported as malformed, with an index that is too large reported as
that, and a source without such a line is compiled or rejected. -/
theorem only_oversize_index_escapes (line script : String) (policy : StaticPolicy)
    (lines : List String) :
    (((∃ command, Command.parse line = .ok command) ∨
      ∃ cause, Command.parse line = .error (.malformed cause)) ↔
        Command.ShortIndex line) ∧
    (∀ sentence : Sentence, sentence.SpelledBy line.toList → ¬ sentence.IsLoadable →
      ((∃ index, Command.parse line = .error (.malformed (.indexTooLarge index))) ↔
        sentence.IsShort)) ∧
    ((∃ compilation, compile script policy lines = .ok compilation) ↔
      ∀ raw ∈ lines, Command.ShortIndex (cleanLine raw)) :=
  ⟨Command.parse_ok_or_malformed_iff,
    fun _ spelled large => Command.indexTooLarge_iff spelled large,
    exists_compile_eq_ok_iff script policy lines⟩

section PushLines

variable {digits : List Char} (numeral : Sentence.Numeral digits) (segment : Segment)

include numeral

theorem spelledBy_pushLine :
    (Sentence.push segment digits).SpelledBy
      ("push " ++ segment.name ++ " " ++ String.ofList digits).toList := by
  have none : Sentence.Blanks [] := by simp [Sentence.Blanks]
  have one : Sentence.Blanks [' '] := by simp [Sentence.Blanks]
  have spelled := Sentence.SpelledBy.push segment none one (by simp) one (by simp)
    numeral none
  simpa using spelled

theorem cleanLine_pushLine :
    cleanLine ("push " ++ segment.name ++ " " ++ String.ofList digits) =
      "push " ++ segment.name ++ " " ++ String.ofList digits := by
  have characters : ("push " ++ segment.name ++ " " ++ String.ofList digits).toList =
      "push ".toList ++ segment.name.toList ++ " ".toList ++ digits := by
    simp
  have slashlessName : '/' ∉ segment.name.toList := by
    cases segment <;> decide
  have slashlessDigits : '/' ∉ digits := by
    intro member
    exact absurd (numeral.2 '/' member).1 (by decide)
  apply cleanLine_eq_self
  · rw [characters]
    simp [slashlessName, slashlessDigits]
  · rw [characters]
    rintro character ⟨⟩
    decide
  · rw [characters, List.getLast?_append_of_ne_nil _ numeral.1]
    intro character isLast
    have digit := numeral.2 character (List.mem_of_mem_getLast? isLast)
    apply Instruction.isBlank_of_isDigit
    simpa [Char.isDigit, Char.le_def] using digit

end PushLines

/-- An index of 4301 digits is larger than any that can be loaded, and yet its
line is not reported: it escapes, and ends the compilation of a source around
it. -/
theorem oversize_index_escapes :
    let digits := List.replicate 4301 '9'
    let line := "push " ++ Segment.constant.name ++ " " ++ String.ofList digits
    (Sentence.push .constant digits).SpelledBy line.toList ∧
      maxIndex < Nat.ofDigitChars 10 digits 0 ∧
      Command.parse line = .error (.oversizeIndex ⟨4301⟩) ∧
      ∃ oversize, compile "Main" .symbols ["add", line] = .error oversize := by
  intro digits line
  have length : digits.length = 4301 := List.length_replicate
  have numeral : Sentence.Numeral digits := by
    refine ⟨List.ne_nil_of_length_pos (by rw [length]; decide), ?_⟩
    intro character member
    obtain rfl := List.eq_of_mem_replicate member
    decide
  have spelled := spelledBy_pushLine numeral .constant
  have escaped : Command.parse line = .error (.oversizeIndex ⟨4301⟩) := by
    rw [Command.parse_of_spelledBy spelled, Sentence.command,
      Sentence.readIndex_of_long (by rw [length]; decide), length]
    rfl
  refine ⟨spelled, by decide +kernel, escaped, ?_⟩
  cases outcome : compile "Main" .symbols ["add", line] with
  | error oversize => exact ⟨oversize, rfl⟩
  | ok compilation =>
      have short := (exists_compile_eq_ok_iff _ _ _).mp ⟨compilation, outcome⟩ line
        (List.mem_cons_of_mem _ List.mem_cons_self)
      rw [cleanLine_pushLine numeral] at short
      exact absurd short (Command.exists_parse_eq_oversize_iff.mp ⟨_, escaped⟩)

end StackCompiler
