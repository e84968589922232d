import StackCompiler.Proofs.TokenDependence

/-!
# Printed commands

A command is printed with single spaces between its words and its index in
decimal without leading zeros.  Reading undoes printing, and printing what was
read from a line brings the line into this form: its tokens stay the same, but
for the spelling of the index.  Nothing changes when this is done again.
-/

namespace StackCompiler

namespace Command

/-- The sentence that a command is printed as. -/
def sentence : Command → Sentence
  | add => .add
  | sub => .sub
  | push segment index => .push segment (Nat.toDigits 10 index)
  | pop segment index => .pop segment (Nat.toDigits 10 index)

theorem numeral_toDigits (number : Nat) : Sentence.Numeral (Nat.toDigits 10 number) := by
  rw [Sentence.numeral_iff_isIndex, Sentence.isIndex]
  simp only [Bool.and_eq_true, Bool.not_eq_true', List.isEmpty_eq_false_iff, List.all_eq_true]
  refine ⟨Nat.toDigits_ne_nil, fun digit member => ?_⟩
  exact Nat.isDigit_of_mem_toDigits (by decide) (by decide) member

theorem meaning_sentence (command : Command) : command.sentence.meaning = command := by
  cases command with
  | add | sub => rfl
  | push segment index | pop segment index =>
      rw [sentence, Sentence.meaning, Nat.ofDigitChars_ten_toDigits]

theorem isShort_sentence {command : Command}
    (small : ∀ index ∈ command.index?, index ≤ maxIndex) : command.sentence.IsShort := by
  have short : ∀ index ≤ maxIndex, (Nat.toDigits 10 index).length ≤ Text.digitLimit := by
    intro index small
    have five : (Nat.toDigits 10 index).length ≤ 5 := by
      rw [Nat.length_toDigits_le_iff (by decide) (by decide)]
      exact Nat.lt_of_le_of_lt small (by decide)
    exact five.trans (by decide)
  cases command with
  | add | sub =>
      intro digits indexed
      cases indexed
  | push segment index | pop segment index =>
      rintro digits ⟨⟩
      exact short index (small index rfl)

/-- A printed command spells its sentence. -/
theorem spelledBy_print (command : Command) :
    command.sentence.SpelledBy command.print.toList := by
  have none : Sentence.Blanks [] := by simp [Sentence.Blanks]
  have one : Sentence.Blanks [' '] := by simp [Sentence.Blanks]
  cases command with
  | add => simpa [print, sentence] using Sentence.SpelledBy.add none none
  | sub => simpa [print, sentence] using Sentence.SpelledBy.sub none none
  | push segment index =>
      simpa [print, sentence] using Sentence.SpelledBy.push segment none one (by simp) one (by simp)
        (numeral_toDigits index) none
  | pop segment index =>
      simpa [print, sentence] using Sentence.SpelledBy.pop segment none one (by simp) one (by simp)
        (numeral_toDigits index) none

/-- Reading undoes printing. -/
theorem parse_print {command : Command}
    (small : ∀ index ∈ command.index?, index ≤ maxIndex) :
    parse command.print = .ok command := by
  have loadable : command.sentence.IsLoadable := by
    rw [Sentence.IsLoadable, meaning_sentence]
    exact small
  rw [parse_of_spelledBy command.spelledBy_print,
    Sentence.command_of_loadable (isShort_sentence small) loadable, meaning_sentence]

/-- Three words with single spaces between them are clean. -/
theorem cleanLine_access (operation : Operation) (segment : Segment) (index : Nat) :
    let line := operation.name ++ " " ++ segment.name ++ " " ++ toString index
    cleanLine line = line := by
  intro line
  have characters : line.toList =
      operation.name.toList ++ [' '] ++ segment.name.toList ++ [' '] ++ Nat.toDigits 10 index := by
    simp [line]
  have digit : ∀ character ∈ Nat.toDigits 10 index, character.isDigit = true :=
    fun character member => Nat.isDigit_of_mem_toDigits (by decide) (by decide) member
  apply cleanLine_eq_self
  · have slashlessOperation : '/' ∉ operation.name.toList := by
      cases operation <;> decide
    have slashlessSegment : '/' ∉ segment.name.toList := by
      cases segment <;> decide
    have slashlessDigits : '/' ∉ Nat.toDigits 10 index := fun member =>
      absurd (digit '/' member) (by decide)
    rw [characters]
    simp [slashlessOperation, slashlessSegment, slashlessDigits]
  · have nonempty : operation.name.toList ≠ [] := by
      cases operation <;> decide
    simp only [characters, List.append_assoc, List.head?_append_of_ne_nil _ nonempty]
    intro character isFirst
    cases operation <;> cases isFirst <;> decide
  · rw [characters, List.getLast?_append_of_ne_nil _ Nat.toDigits_ne_nil]
    intro character isLast
    exact Instruction.isBlank_of_isDigit (digit character (List.mem_of_mem_getLast? isLast))

/-- A printed command is clean. -/
theorem cleanLine_print (command : Command) : cleanLine command.print = command.print := by
  cases command with
  | add | sub => decide
  | push segment index => exact cleanLine_access .push segment index
  | pop segment index => exact cleanLine_access .pop segment index

end Command

namespace Sentence

/-- A token as it is printed: an index is brought into decimal without leading
zeros. -/
def canonicalToken (token : List Char) : String :=
  if isIndex token then toString (Nat.ofDigitChars 10 token 0) else String.ofList token

theorem canonicalToken_operation (operation : Operation) :
    canonicalToken operation.name.toList = operation.name := by
  have noIndex : isIndex operation.name.toList = false := by
    cases operation <;> decide
  simp [canonicalToken, noIndex]

theorem canonicalToken_segment (segment : Segment) :
    canonicalToken segment.name.toList = segment.name := by
  have noIndex : isIndex segment.name.toList = false := by
    cases segment <;> decide
  simp [canonicalToken, noIndex]

theorem canonicalToken_numeral {digits : List Char} (numeral : Numeral digits) :
    canonicalToken digits = toString (Nat.ofDigitChars 10 digits 0) :=
  if_pos (numeral_iff_isIndex.mp numeral)

/-- The words of a sentence in canonical form are those of the printed command. -/
theorem print_meaning {sentence : Sentence}
    (numerals : ∀ digits ∈ sentence.digits?, Numeral digits) :
    sentence.meaning.print = " ".intercalate (sentence.words.map canonicalToken) := by
  cases sentence with
  | add => exact (canonicalToken_operation .add).symm
  | sub => exact (canonicalToken_operation .sub).symm
  | push segment digits =>
      have word : canonicalToken "push".toList = "push" := canonicalToken_operation .push
      simp only [words, List.map_cons, List.map_nil, word, canonicalToken_segment,
        canonicalToken_numeral (numerals digits rfl)]
      rfl
  | pop segment digits =>
      have word : canonicalToken "pop".toList = "pop" := canonicalToken_operation .pop
      simp only [words, List.map_cons, List.map_nil, word, canonicalToken_segment,
        canonicalToken_numeral (numerals digits rfl)]
      rfl

end Sentence

namespace Command

/-- Read a line and print its command. -/
def normalise (line : String) : Except ParseFault String :=
  (parse line).map print

theorem print_of_parse {line : String} {command : Command}
    (parsed : parse line = .ok command) :
    command.print = " ".intercalate ((lineTokens line).map Sentence.canonicalToken) := by
  obtain ⟨sentence, spelled, _, rfl⟩ := statedBy_of_parse parsed
  obtain ⟨split, numerals⟩ := Sentence.spelledBy_iff.mp spelled
  rw [lineTokens, split]
  exact Sentence.print_meaning numerals

theorem index?_of_ofFields {operation : Operation} {segment : Option Segment}
    {index : Option Int} {command : Command}
    (formed : ofFields operation segment index = .ok command) :
    command.index?.map Int.ofNat = index := by
  cases operation with
  | push | pop =>
      cases segment with
      | none => cases formed
      | some segment =>
          cases index with
          | none => cases formed
          | some number =>
              cases number with
              | ofNat number =>
                  cases formed
                  rfl
              | negSucc below => cases formed
  | add | sub =>
      rw [ofFields] at formed
      split at formed
      next absent =>
        cases formed
        rw [Bool.and_eq_true, Option.isNone_iff_eq_none, Option.isNone_iff_eq_none] at absent
        rw [absent.2]
        rfl
      next => cases formed

theorem normalise_idempotent {line text : String} (normal : normalise line = .ok text) :
    normalise text = .ok text := by
  rw [normalise] at normal
  cases parsed : parse line with
  | error fault =>
      rw [parsed] at normal
      cases normal
  | ok command =>
      rw [parsed] at normal
      cases normal
      rw [normalise, parse_print (index_le_of_parse parsed)]
      rfl

/-- Printing and reading are inverse.  Every command whose fields form a command
and whose index can be loaded is read back from its printed form.  A command that
was read from a line is such a command; its printed form holds the tokens of the
line with single spaces between them and the index in canonical decimal; it is
clean, and it is read as the same command.  So reading and printing a line once
more changes nothing. -/
theorem print_parse_inverse :
    (∀ (operation : Operation) (segment : Option Segment) (index : Option Int)
        (command : Command),
      ofFields operation segment index = .ok command →
      (∀ number ∈ index, number ≤ 32767) → parse command.print = .ok command) ∧
    (∀ (line : String) (command : Command), parse line = .ok command →
      ofFields command.operation command.segment? (command.index?.map Int.ofNat) =
        .ok command ∧
      (∀ index ∈ command.index?, index ≤ 32767) ∧
      command.print = " ".intercalate ((lineTokens line).map Sentence.canonicalToken) ∧
      cleanLine command.print = command.print ∧
      parse command.print = .ok command) ∧
    ∀ line text : String, normalise line = .ok text → normalise text = .ok text := by
  refine ⟨?_, ?_, fun _ _ normal => normalise_idempotent normal⟩
  · intro operation segment index command formed small
    apply parse_print
    intro number indexed
    have isIndex : (number : Int) ∈ index := by
      rw [← index?_of_ofFields formed]
      exact Option.mem_map_of_mem Int.ofNat indexed
    have bound : (number : Int) ≤ 32767 := small number isIndex
    rw [maxIndex]
    omega
  · intro line command parsed
    have small := index_le_of_parse parsed
    exact ⟨ofFields_fields command, small, print_of_parse parsed, command.cleanLine_print,
      parse_print small⟩

/-- The largest index, read from its fields and from a line that spells it with
leading zeros between tabs. -/
theorem print_parse_inverse_padded :
    let command := push .that 32767
    ofFields .push (some .that) (some 32767) = .ok command ∧
      parse "\tpush  that\t0032767 " = .ok command ∧
      parse command.print = .ok command ∧
      command.print =
        " ".intercalate ((lineTokens "\tpush  that\t0032767 ").map Sentence.canonicalToken) ∧
      normalise "push that 32767" = .ok "push that 32767" := by
  intro command
  have formed : ofFields .push (some .that) (some 32767) = .ok command := rfl
  have parsed : parse "\tpush  that\t0032767 " = .ok command := by
    decide
  obtain ⟨fromFields, fromLine, again⟩ := print_parse_inverse
  have normal : normalise "\tpush  that\t0032767 " = .ok "push that 32767" := by
    decide +kernel
  exact ⟨formed, parsed, fromFields _ _ _ _ formed (by simp),
    (fromLine _ _ parsed).2.2.1, again _ _ normal⟩

end Command

end StackCompiler
