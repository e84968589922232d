import StackCompiler.Proofs.Grammar

/-!
# Exactness of reading a command

A line states a command if it spells a sentence that stands for the command and
whose index an instruction can load.  This file decides every line by its
spelling: it is read as the command it states, or it is malformed, or its index
has more digits than a numeral may have.
-/

namespace StackCompiler

namespace Sentence

/-- Whether the index of a sentence keeps to the digit limit. -/
def IsShort (sentence : Sentence) : Prop :=
  ∀ digits ∈ sentence.digits?, digits.length ≤ Text.digitLimit

/-- Whether an instruction can load the index of a sentence. -/
def IsLoadable (sentence : Sentence) : Prop :=
  ∀ index ∈ sentence.meaning.index?, index ≤ maxIndex

theorem readIndex_of_le {digits : List Char}
    (short : digits.length ≤ Text.digitLimit)
    (small : Nat.ofDigitChars 10 digits 0 ≤ maxIndex) :
    readIndex digits = .ok (Nat.ofDigitChars 10 digits 0) := by
  rw [readIndex, if_neg (Nat.not_lt.mpr short)]
  exact if_neg (Nat.not_lt.mpr small)

theorem readIndex_of_large {digits : List Char}
    (short : digits.length ≤ Text.digitLimit)
    (large : maxIndex < Nat.ofDigitChars 10 digits 0) :
    readIndex digits =
      .error (.malformed (.indexTooLarge (Nat.ofDigitChars 10 digits 0))) := by
  rw [readIndex, if_neg (Nat.not_lt.mpr short)]
  exact if_pos large

theorem readIndex_of_long {digits : List Char}
    (long : Text.digitLimit < digits.length) :
    readIndex digits = .error (.oversizeIndex ⟨digits.length⟩) := by
  rw [readIndex, if_pos long]

theorem command_of_loadable {sentence : Sentence} (short : sentence.IsShort)
    (loadable : sentence.IsLoadable) :
    sentence.command = .ok sentence.meaning := by
  cases sentence with
  | add | sub => rfl
  | push segment digits | pop segment digits =>
      rw [command, readIndex_of_le (short digits rfl) (loadable _ rfl)]
      rfl

theorem command_of_not_loadable {sentence : Sentence} (short : sentence.IsShort)
    (large : ¬ sentence.IsLoadable) :
    ∃ index, sentence.command = .error (.malformed (.indexTooLarge index)) := by
  cases sentence with
  | add | sub => exact absurd (fun index member => by cases member) large
  | push segment digits | pop segment digits =>
      have exceeds : maxIndex < Nat.ofDigitChars 10 digits 0 := by
        by_contra within
        apply large
        rintro index ⟨⟩
        exact Nat.not_lt.mp within
      rw [command, readIndex_of_large (short digits rfl) exceeds]
      exact ⟨_, rfl⟩

theorem command_of_not_short {sentence : Sentence} (long : ¬ sentence.IsShort) :
    ∃ oversize, sentence.command = .error (.oversizeIndex oversize) := by
  cases sentence with
  | add | sub => exact absurd (fun digits member => by cases member) long
  | push segment digits | pop segment digits =>
      have exceeds : Text.digitLimit < digits.length := by
        by_contra within
        apply long
        rintro other ⟨⟩
        exact Nat.not_lt.mp within
      rw [command, readIndex_of_long exceeds]
      exact ⟨_, rfl⟩

end Sentence

namespace Command

/-- A line states a command if it spells a sentence that stands for the command
and whose index an instruction can load. -/
def StatedBy (command : Command) (line : String) : Prop :=
  ∃ sentence : Sentence, sentence.SpelledBy line.toList ∧
    sentence.IsLoadable ∧ sentence.meaning = command

/-- Whether no sentence that a line spells has an index beyond the digit
limit. -/
def ShortIndex (line : String) : Prop :=
  ∀ sentence : Sentence, sentence.SpelledBy line.toList → sentence.IsShort

theorem parse_of_spelledBy {line : String} {sentence : Sentence}
    (spelled : sentence.SpelledBy line.toList) :
    parse line = sentence.command := by
  rw [parse, Sentence.parse?_eq_some_iff.mpr spelled]

theorem parse_of_not_spelledBy {line : String}
    (unspelled : ∀ sentence : Sentence, ¬ sentence.SpelledBy line.toList) :
    parse line = .error (.malformed (Malformation.describe line false)) := by
  have unrecognised : Sentence.parse? line = none := by
    rw [Option.eq_none_iff_forall_ne_some]
    intro sentence found
    exact unspelled sentence (Sentence.parse?_eq_some_iff.mp found)
  rw [parse, unrecognised]

/-- Every line falls into one of four classes by its spelling. -/
theorem parse_cases (line : String) :
    (∃ sentence : Sentence, sentence.SpelledBy line.toList ∧
      sentence.IsLoadable ∧ parse line = .ok sentence.meaning) ∨
    (∃ sentence : Sentence, sentence.SpelledBy line.toList ∧
      ¬ sentence.IsLoadable ∧
        ∃ index, parse line = .error (.malformed (.indexTooLarge index))) ∨
    (∃ sentence : Sentence, sentence.SpelledBy line.toList ∧
      ¬ sentence.IsShort ∧
        ∃ oversize, parse line = .error (.oversizeIndex oversize)) ∨
    ((∀ sentence : Sentence, ¬ sentence.SpelledBy line.toList) ∧
      parse line = .error (.malformed (Malformation.describe line false))) := by
  by_cases spells : ∃ sentence : Sentence, sentence.SpelledBy line.toList
  · obtain ⟨sentence, spelled⟩ := spells
    rw [parse_of_spelledBy spelled]
    by_cases short : sentence.IsShort
    · by_cases loadable : sentence.IsLoadable
      · exact Or.inl ⟨sentence, spelled, loadable,
          Sentence.command_of_loadable short loadable⟩
      · exact Or.inr (Or.inl ⟨sentence, spelled, loadable,
          Sentence.command_of_not_loadable short loadable⟩)
    · exact Or.inr (Or.inr (Or.inl ⟨sentence, spelled, short,
        Sentence.command_of_not_short short⟩))
  · have unspelled := not_exists.mp spells
    exact Or.inr (Or.inr (Or.inr ⟨unspelled, parse_of_not_spelledBy unspelled⟩))

theorem statedBy_of_parse {line : String} {command : Command}
    (parsed : parse line = .ok command) : command.StatedBy line := by
  rcases parse_cases line with
    ⟨sentence, spelled, loadable, outcome⟩ | ⟨_, _, _, _, outcome⟩ |
      ⟨_, _, _, _, outcome⟩ | ⟨_, outcome⟩
  · rw [parsed] at outcome
    injection outcome with meaning
    exact ⟨sentence, spelled, loadable, meaning.symm⟩
  all_goals
    rw [parsed] at outcome
    cases outcome

theorem parse_eq_ok_iff {line : String} (short : ShortIndex line)
    {command : Command} :
    parse line = .ok command ↔ command.StatedBy line := by
  refine ⟨statedBy_of_parse, ?_⟩
  rintro ⟨sentence, spelled, loadable, rfl⟩
  rw [parse_of_spelledBy spelled]
  exact Sentence.command_of_loadable (short sentence spelled) loadable

theorem parse_ok_or_malformed {line : String} (short : ShortIndex line) :
    (∃ command, parse line = .ok command) ∨
      ∃ cause, parse line = .error (.malformed cause) := by
  rcases parse_cases line with
    ⟨_, _, _, outcome⟩ | ⟨_, _, _, index, outcome⟩ |
      ⟨sentence, spelled, long, _⟩ | ⟨_, outcome⟩
  · exact Or.inl ⟨_, outcome⟩
  · exact Or.inr ⟨_, outcome⟩
  · exact absurd (short sentence spelled) long
  · exact Or.inr ⟨_, outcome⟩

theorem index_le_of_parse {line : String} {command : Command}
    (parsed : parse line = .ok command) :
    ∀ index ∈ command.index?, index ≤ maxIndex := by
  obtain ⟨sentence, _, loadable, rfl⟩ := statedBy_of_parse parsed
  exact loadable

theorem ofFields_fields (command : Command) :
    ofFields command.operation command.segment?
      (command.index?.map Int.ofNat) = .ok command := by
  cases command <;> rfl

/-- An index is a run of digits, so a line without long runs of digits has no
long index. -/
theorem shortIndex_of_runs {line : String}
    (runs : ∀ run, run <:+: line.toList →
      (∀ character ∈ run, '0' ≤ character ∧ character ≤ '9') →
        run.length ≤ Text.digitLimit) :
    ShortIndex line := by
  intro sentence spelled digits indexed
  obtain ⟨isInfix, numeral⟩ := spelled.digits_infix indexed
  exact runs digits isInfix numeral.2

theorem shortIndex_of_length {line : String}
    (brief : line.toList.length ≤ Text.digitLimit) : ShortIndex line :=
  shortIndex_of_runs fun _ isInfix _ => isInfix.length_le.trans brief

/-- Reading accepts exactly the grammar.  A line without a run of digits beyond
the digit limit is read as a command if and only if it states that command;
the command has fields that form a command again; and every other line is
malformed. -/
theorem parse_iff_grammar (line : String)
    (runs : ∀ run, run <:+: line.toList →
      (∀ character ∈ run, '0' ≤ character ∧ character ≤ '9') →
        run.length ≤ Text.digitLimit) :
    (∀ command, parse line = .ok command ↔ command.StatedBy line) ∧
      (∀ command, parse line = .ok command →
        ofFields command.operation command.segment?
          (command.index?.map Int.ofNat) = .ok command) ∧
      ((∀ command : Command, ¬ command.StatedBy line) →
        ∃ cause, parse line = .error (.malformed cause)) := by
  have short := shortIndex_of_runs runs
  refine ⟨fun command => parse_eq_ok_iff short, fun command _ =>
    ofFields_fields command, ?_⟩
  intro unstated
  rcases parse_ok_or_malformed short with ⟨command, parsed⟩ | malformed
  · exact absurd (statedBy_of_parse parsed) (unstated command)
  · exact malformed

/-- Tabs and spaces in any number, and an index with leading zeros at the
largest value. -/
theorem parse_iff_grammar_padded :
    (∀ run, run <:+: "\t push\tthat  0032767 ".toList →
      (∀ character ∈ run, '0' ≤ character ∧ character ≤ '9') →
        run.length ≤ Text.digitLimit) ∧
      (Command.push .that 32767).StatedBy "\t push\tthat  0032767 " := by
  have runs : ∀ run, run <:+: "\t push\tthat  0032767 ".toList →
      (∀ character ∈ run, '0' ≤ character ∧ character ≤ '9') →
        run.length ≤ Text.digitLimit := by
    intro run isInfix _
    exact isInfix.length_le.trans (by decide)
  exact ⟨runs, ((parse_iff_grammar _ runs).1 _).mp (by decide)⟩

end Command

end StackCompiler
