import StackCompiler.Command.Parser
import StackCompiler.Proofs.Tokens

/-!
# The grammar of a command

The grammar is stated here without tokens: which texts spell a sentence, and
which command a sentence stands for.  Reading a line is then shown to be exact.
It finds a sentence if and only if the line spells one, and it yields a command
if and only if the line states one within the digit limit.
-/

namespace StackCompiler

namespace Sentence

/-- A run of spaces and tabs, possibly empty. -/
def Blanks (text : List Char) : Prop :=
  ∀ character ∈ text, character = ' ' ∨ character = '\t'

/-- A nonempty run of the digits from 0 to 9. -/
def Numeral (text : List Char) : Prop :=
  text ≠ [] ∧ ∀ character ∈ text, '0' ≤ character ∧ character ≤ '9'

/-- The texts that spell a sentence.  An arithmetic word stands alone between
blanks; the three words of a memory access are kept apart by at least one
blank. -/
inductive SpelledBy : Sentence → List Char → Prop
  | add {before after : List Char} :
      Blanks before → Blanks after →
        SpelledBy add (before ++ "add".toList ++ after)
  | sub {before after : List Char} :
      Blanks before → Blanks after →
        SpelledBy sub (before ++ "sub".toList ++ after)
  | push {before first second after digits : List Char} (segment : Segment) :
      Blanks before → Blanks first → first ≠ [] → Blanks second → second ≠ [] →
        Numeral digits → Blanks after →
          SpelledBy (push segment digits)
            (before ++ "push".toList ++ first ++ segment.name.toList ++ second ++
              digits ++ after)
  | pop {before first second after digits : List Char} (segment : Segment) :
      Blanks before → Blanks first → first ≠ [] → Blanks second → second ≠ [] →
        Numeral digits → Blanks after →
          SpelledBy (pop segment digits)
            (before ++ "pop".toList ++ first ++ segment.name.toList ++ second ++
              digits ++ after)

/-- The digits of the index of a sentence. -/
def digits? : Sentence → Option (List Char)
  | add | sub => none
  | push _ digits | pop _ digits => some digits

/-- The command that a sentence stands for, its index read as a decimal
number. -/
def meaning : Sentence → Command
  | add => .add
  | sub => .sub
  | push segment digits => .push segment (Nat.ofDigitChars 10 digits 0)
  | pop segment digits => .pop segment (Nat.ofDigitChars 10 digits 0)

theorem blanks_iff_isGap {text : List Char} :
    Blanks text ↔ Text.IsGap isGap text := by
  simp [Blanks, Text.IsGap, isGap]

theorem numeral_iff_isIndex {text : List Char} :
    Numeral text ↔ isIndex text = true := by
  simp only [Numeral, isIndex, Char.isDigit, Char.le_def, Bool.and_eq_true,
    Bool.not_eq_true', List.isEmpty_eq_false_iff, List.all_eq_true,
    decide_eq_true_eq, ge_iff_le, ne_eq]

theorem Numeral.isWord {digits : List Char} (numeral : Numeral digits) :
    Text.IsWord isGap digits := by
  refine ⟨numeral.1, ?_⟩
  intro character member
  obtain ⟨low, _⟩ := numeral.2 character member
  have notSpace : character ≠ ' ' := by
    rintro rfl
    exact absurd low (by decide)
  have notTab : character ≠ '\t' := by
    rintro rfl
    exact absurd low (by decide)
  simp [isGap, notSpace, notTab]

theorem isWord_operationName (operation : Operation) :
    Text.IsWord isGap operation.name.toList := by
  cases operation <;> exact Text.isWord_of_all (by decide)

theorem isWord_segmentName (segment : Segment) :
    Text.IsWord isGap segment.name.toList := by
  cases segment <;> exact Text.isWord_of_all (by decide)

theorem tokens_single {before word after : List Char}
    (blankBefore : Blanks before) (isWord : Text.IsWord isGap word)
    (blankAfter : Blanks after) :
    Text.tokens isGap (before ++ word ++ after) = [word] := by
  have gapAfter := blanks_iff_isGap.mp blankAfter
  rw [List.append_assoc, Text.tokens_gap_append (blanks_iff_isGap.mp blankBefore),
    Text.tokens_word_append isWord gapAfter.endsWord, Text.tokens_gap gapAfter]

theorem tokens_triple
    {before word first place second index after : List Char}
    (blankBefore : Blanks before) (isWord : Text.IsWord isGap word)
    (blankFirst : Blanks first) (firstNonempty : first ≠ [])
    (isPlace : Text.IsWord isGap place)
    (blankSecond : Blanks second) (secondNonempty : second ≠ [])
    (isIndex : Text.IsWord isGap index) (blankAfter : Blanks after) :
    Text.tokens isGap
        (before ++ word ++ first ++ place ++ second ++ index ++ after) =
      [word, place, index] := by
  have gapFirst := blanks_iff_isGap.mp blankFirst
  have gapSecond := blanks_iff_isGap.mp blankSecond
  have lastToken := tokens_single blankSecond isIndex blankAfter
  have lastTwo := Text.tokens_word_append isPlace
    (gapSecond.endsWord_append secondNonempty (index ++ after))
  rw [← List.append_assoc second, lastToken] at lastTwo
  have allThree := Text.tokens_word_append isWord
    (gapFirst.endsWord_append firstNonempty (place ++ (second ++ index ++ after)))
  rw [Text.tokens_gap_append gapFirst, lastTwo] at allThree
  simp only [List.append_assoc] at allThree ⊢
  rw [Text.tokens_gap_append (blanks_iff_isGap.mp blankBefore), allThree]

theorem exists_of_tokens_single {text word : List Char}
    (single : Text.tokens isGap text = [word]) :
    ∃ before after, text = before ++ word ++ after ∧ Blanks before ∧
      Blanks after := by
  obtain ⟨before, after, rfl, gapBefore, _, _, noMore⟩ :=
    Text.exists_of_tokens_eq_cons single
  refine ⟨before, after, by simp, blanks_iff_isGap.mpr gapBefore, ?_⟩
  exact blanks_iff_isGap.mpr (Text.isGap_of_tokens_eq_nil noMore)

theorem exists_of_tokens_triple {text word place index : List Char}
    (triple : Text.tokens isGap text = [word, place, index]) :
    ∃ before first second after,
      text = before ++ word ++ first ++ place ++ second ++ index ++ after ∧
        Blanks before ∧ Blanks first ∧ first ≠ [] ∧ Blanks second ∧
        second ≠ [] ∧ Blanks after := by
  obtain ⟨before, afterWord, rfl, gapBefore, _, endsWord, lastTwo⟩ :=
    Text.exists_of_tokens_eq_cons triple
  obtain ⟨first, afterPlace, rfl, gapFirst, isPlace, endsPlace, lastOne⟩ :=
    Text.exists_of_tokens_eq_cons lastTwo
  obtain ⟨second, after, rfl, gapSecond, isIndex, _, noMore⟩ :=
    Text.exists_of_tokens_eq_cons lastOne
  refine ⟨before, first, second, after, by simp, ?_⟩
  exact ⟨blanks_iff_isGap.mpr gapBefore, blanks_iff_isGap.mpr gapFirst,
    endsWord.gap_ne_nil isPlace rfl, blanks_iff_isGap.mpr gapSecond,
    endsPlace.gap_ne_nil isIndex rfl,
    blanks_iff_isGap.mpr (Text.isGap_of_tokens_eq_nil noMore)⟩

/-- The words of a sentence. -/
def words : Sentence → List (List Char)
  | add => ["add".toList]
  | sub => ["sub".toList]
  | push segment digits => ["push".toList, segment.name.toList, digits]
  | pop segment digits => ["pop".toList, segment.name.toList, digits]

theorem ofTokens?_eq_some_iff {tokens : List (List Char)} {sentence : Sentence} :
    ofTokens? tokens = some sentence ↔
      tokens = sentence.words ∧ ∀ digits ∈ sentence.digits?, Numeral digits := by
  constructor
  · intro found
    unfold ofTokens? at found
    split at found
    next word =>
      split at found
      next named =>
        cases found
        obtain rfl : word = Operation.add.name.toList :=
          Enumeration.ofName?_ofList_eq_some_iff.mp named
        exact ⟨rfl, by simp [digits?]⟩
      next named =>
        cases found
        obtain rfl : word = Operation.sub.name.toList :=
          Enumeration.ofName?_ofList_eq_some_iff.mp named
        exact ⟨rfl, by simp [digits?]⟩
      next => cases found
    next word place index =>
      split at found
      next segment named placed indexed =>
        cases found
        obtain rfl : word = Operation.push.name.toList :=
          Enumeration.ofName?_ofList_eq_some_iff.mp named
        obtain rfl : place = segment.name.toList :=
          Enumeration.ofName?_ofList_eq_some_iff.mp placed
        exact ⟨rfl, by simpa [digits?] using numeral_iff_isIndex.mpr indexed⟩
      next segment named placed indexed =>
        cases found
        obtain rfl : word = Operation.pop.name.toList :=
          Enumeration.ofName?_ofList_eq_some_iff.mp named
        obtain rfl : place = segment.name.toList :=
          Enumeration.ofName?_ofList_eq_some_iff.mp placed
        exact ⟨rfl, by simpa [digits?] using numeral_iff_isIndex.mpr indexed⟩
      next => cases found
    next => cases found
  · rintro ⟨rfl, numerals⟩
    cases sentence with
    | add => rfl
    | sub => rfl
    | push segment digits =>
        have indexed := numeral_iff_isIndex.mp (numerals digits rfl)
        have named : Operation.ofName? "push" = some .push := rfl
        simp [words, ofTokens?, named, indexed]
    | pop segment digits =>
        have indexed := numeral_iff_isIndex.mp (numerals digits rfl)
        have named : Operation.ofName? "pop" = some .pop := rfl
        simp [words, ofTokens?, named, indexed]

theorem spelledBy_iff {sentence : Sentence} {text : List Char} :
    sentence.SpelledBy text ↔
      Text.tokens isGap text = sentence.words ∧
        ∀ digits ∈ sentence.digits?, Numeral digits := by
  constructor
  · intro spelled
    cases spelled with
    | add blankBefore blankAfter =>
        exact ⟨tokens_single blankBefore (isWord_operationName .add) blankAfter,
          by simp [digits?]⟩
    | sub blankBefore blankAfter =>
        exact ⟨tokens_single blankBefore (isWord_operationName .sub) blankAfter,
          by simp [digits?]⟩
    | push segment blankBefore blankFirst firstNonempty blankSecond
        secondNonempty numeral blankAfter =>
        refine ⟨?_, by simpa [digits?] using numeral⟩
        exact tokens_triple blankBefore (isWord_operationName .push) blankFirst
          firstNonempty (isWord_segmentName segment) blankSecond secondNonempty
          numeral.isWord blankAfter
    | pop segment blankBefore blankFirst firstNonempty blankSecond
        secondNonempty numeral blankAfter =>
        refine ⟨?_, by simpa [digits?] using numeral⟩
        exact tokens_triple blankBefore (isWord_operationName .pop) blankFirst
          firstNonempty (isWord_segmentName segment) blankSecond secondNonempty
          numeral.isWord blankAfter
  · rintro ⟨split, numerals⟩
    cases sentence with
    | add =>
        obtain ⟨before, after, rfl, blankBefore, blankAfter⟩ :=
          exists_of_tokens_single split
        exact .add blankBefore blankAfter
    | sub =>
        obtain ⟨before, after, rfl, blankBefore, blankAfter⟩ :=
          exists_of_tokens_single split
        exact .sub blankBefore blankAfter
    | push segment digits =>
        obtain ⟨before, first, second, after, rfl, blankBefore, blankFirst,
          firstNonempty, blankSecond, secondNonempty, blankAfter⟩ :=
          exists_of_tokens_triple split
        exact .push segment blankBefore blankFirst firstNonempty blankSecond
          secondNonempty (numerals digits rfl) blankAfter
    | pop segment digits =>
        obtain ⟨before, first, second, after, rfl, blankBefore, blankFirst,
          firstNonempty, blankSecond, secondNonempty, blankAfter⟩ :=
          exists_of_tokens_triple split
        exact .pop segment blankBefore blankFirst firstNonempty blankSecond
          secondNonempty (numerals digits rfl) blankAfter

/-- A line is recognised as a sentence exactly if it spells that sentence. -/
theorem parse?_eq_some_iff {line : String} {sentence : Sentence} :
    parse? line = some sentence ↔ sentence.SpelledBy line.toList := by
  rw [parse?, ofTokens?_eq_some_iff, spelledBy_iff]

theorem SpelledBy.digits_infix {sentence : Sentence} {text digits : List Char}
    (spelled : sentence.SpelledBy text) (indexed : sentence.digits? = some digits) :
    digits <:+: text ∧ Numeral digits := by
  cases spelled with
  | add | sub => simp [digits?] at indexed
  | push segment _ _ _ _ _ numeral _ | pop segment _ _ _ _ _ numeral _ =>
      cases indexed
      exact ⟨List.infix_append .., numeral⟩

end Sentence

end StackCompiler
