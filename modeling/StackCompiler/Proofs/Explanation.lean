import StackCompiler.Proofs.QuotedText
import StackCompiler.Proofs.TokenDependence

/-!
# What is said of a rejected line

A line outside the grammar is explained by its words, which are divided at every
kind of blank, while the grammar knows spaces and tabs only.  The explanation is
found by elimination.  What it says of the number of words, of the operation and
of the segment is always true.  What it says of the index is true as well, unless
a blank that separates nothing for the grammar separates two words here: then an
index without fault is blamed.
-/

namespace StackCompiler

namespace Text

variable {separates other : Char → Bool}

theorem tokens_congr {text : List Char}
    (same : ∀ character ∈ text, separates character = other character) :
    tokens separates text = tokens other text := by
  have pieces : cutAt separates text = cutAt other text := by
    induction text with
    | nil => rfl
    | cons character rest ih =>
        rw [cutAt, cutAt, same character (by simp),
          ih fun later member => same later (by simp [member])]
  rw [tokens, tokens, pieces]

/-- A text with one token that neither starts nor ends with a separator is that
token. -/
theorem eq_of_tokens_single {text word : List Char}
    (single : tokens separates text = [word])
    (first : ∀ character ∈ text.head?, separates character = false)
    (last : ∀ character ∈ text.getLast?, separates character = false) : text = word := by
  obtain ⟨gap, rest, rfl, isGap, _, _, noMore⟩ := exists_of_tokens_eq_cons single
  have noGap : gap = [] := by
    cases gap with
    | nil => rfl
    | cons separator others =>
        have separated := isGap separator (by simp)
        rw [first separator (by simp)] at separated
        cases separated
  have noRest : rest = [] := by
    by_contra nonempty
    obtain ⟨separator, isLast⟩ := List.getLast?_isSome.mpr nonempty |> Option.isSome_iff_exists.mp
    have separated :=
      isGap_of_tokens_eq_nil noMore separator (List.mem_of_mem_getLast? isLast)
    rw [last separator (by simp [List.getLast?_append, isLast])] at separated
    cases separated
  rw [noGap, noRest, List.nil_append, List.append_nil]

theorem tokens_of_words {text : String} {list : List String} (parts : words text = list) :
    tokens isBlank text.toList = list.map String.toList := by
  rw [← parts, words, List.map_map]
  simp

/-- A text holds a foreign blank if it holds a blank that is neither a space nor a
tab. -/
def ForeignBlank (text : String) : Prop :=
  ∃ character ∈ text.toList,
    isBlank character = true ∧ character ≠ ' ' ∧ character ≠ '\t'

end Text

namespace Malformation

/-- The words with which the message of a malformation opens. -/
def opening : Malformation → String
  | .empty => "empty command"
  | .unknownOperation _ => "unknown operation "
  | .unexpectedOperands operation => operation.name ++ " takes no operands"
  | .missingOperands operation => operation.name ++ " needs a segment and an index"
  | .unknownSegment _ => "unknown segment "
  | .trailingInput _ => "unexpected trailing input "
  | .incomplete => "incomplete command"
  | .badIndex _ => "index must be a non-negative integer, got "
  | .indexTooLarge _ => "index "

/-- What the message of a malformation shows of the line. -/
def shown : Malformation → String
  | .unknownOperation word | .unknownSegment word | .trailingInput word
  | .badIndex word => Text.quote word
  | .indexTooLarge index => toString index ++ " is out of range 0.." ++ toString maxIndex
  | .empty | .incomplete | .unexpectedOperands _ | .missingOperands _ => ""

/-- A malformation without what its message shows of the line. -/
def shape : Malformation → Malformation
  | .unknownOperation _ => .unknownOperation ""
  | .unknownSegment _ => .unknownSegment ""
  | .trailingInput _ => .trailingInput ""
  | .badIndex _ => .badIndex ""
  | .indexTooLarge _ => .indexTooLarge 0
  | .empty => .empty
  | .incomplete => .incomplete
  | .unexpectedOperands operation => .unexpectedOperands operation
  | .missingOperands operation => .missingOperands operation

/-- The shapes of the malformations that are found by looking at words. -/
def wordShapes : List Malformation :=
  [.empty, .unknownOperation "", .unknownSegment "", .trailingInput "", .incomplete,
    .badIndex ""] ++ Operation.all.map .unexpectedOperands ++
    Operation.all.map .missingOperands

theorem message_eq (cause : Malformation) :
    cause.message = cause.shape.opening ++ cause.shown := by
  cases cause with
  | unknownOperation word | unknownSegment word | trailingInput text | badIndex word => rfl
  | empty | incomplete | unexpectedOperands operation | missingOperands operation =>
      rw [shown, String.append_empty]
      rfl
  | indexTooLarge index =>
      rw [shown, ← String.append_assoc, ← String.append_assoc]
      rfl

/-- No opening goes on to become another one. -/
theorem opening_incomparable : ∀ first ∈ wordShapes, ∀ second ∈ wordShapes,
    first.opening.toList <+: second.opening.toList → first = second := by
  decide +kernel

theorem shape_mem_wordShapes {cause : Malformation}
    (unread : ∀ index, cause ≠ .indexTooLarge index) : cause.shape ∈ wordShapes := by
  cases cause with
  | indexTooLarge index => exact absurd rfl (unread index)
  | unexpectedOperands operation | missingOperands operation =>
      cases operation <;> decide
  | empty | incomplete | unknownOperation | unknownSegment | trailingInput | badIndex =>
      simp [shape, wordShapes]

/-- A message opens in one way only. -/
theorem eq_shape_of_opening {cause form : Malformation}
    (unread : ∀ index, cause ≠ .indexTooLarge index) (isForm : form ∈ wordShapes)
    {rest : String} (opens : cause.message = form.opening ++ rest) : form = cause.shape := by
  have isShape := shape_mem_wordShapes unread
  have characters : cause.shape.opening.toList ++ cause.shown.toList =
      form.opening.toList ++ rest.toList := by
    rw [message_eq] at opens
    simpa using congrArg String.toList opens
  have formFirst : form.opening.toList <+:
      cause.shape.opening.toList ++ cause.shown.toList := ⟨rest.toList, characters.symm⟩
  rcases List.prefix_or_prefix_of_prefix formFirst (List.prefix_append _ _) with
    shorter | longer
  · exact opening_incomparable form isForm _ isShape shorter
  · exact (opening_incomparable _ isShape form isForm longer).symm

/-- The message determines a malformation that is found by looking at words. -/
theorem eq_of_message_eq {first second : Malformation}
    (firstUnread : ∀ index, first ≠ .indexTooLarge index)
    (secondUnread : ∀ index, second ≠ .indexTooLarge index)
    (same : first.message = second.message) : first = second := by
  have sameShape : second.shape = first.shape :=
    eq_shape_of_opening firstUnread (shape_mem_wordShapes secondUnread)
      (same.trans (message_eq second))
  have sameShown : first.shown = second.shown := by
    rw [message_eq, message_eq, sameShape] at same
    exact (String.append_right_inj _).mp same
  cases first with
  | indexTooLarge index => exact absurd rfl (firstUnread index)
  | empty | incomplete | unexpectedOperands operation | missingOperands operation =>
      cases second <;> cases sameShape
      rfl
  | unknownOperation word | unknownSegment word | trailingInput text | badIndex word =>
      cases second <;> cases sameShape
      exact congrArg _ (Text.quote_injective sameShown)

/-- The explanations of a line by its words. -/
inductive Explains : List String → Malformation → Prop
  | empty : Explains [] .empty
  | unknownOperation {word : String} (others : List String) :
      Operation.ofName? word = none → Explains (word :: others) (.unknownOperation word)
  | unexpectedOperands {operation : Operation} (others : List String) :
      operation.isMemoryAccess = false →
        Explains (operation.name :: others) (.unexpectedOperands operation)
  | missingOperands {operation : Operation} {others : List String} :
      operation.isMemoryAccess = true → others.length < 2 →
        Explains (operation.name :: others) (.missingOperands operation)
  | unknownSegment {operation : Operation} {word : String} (index : String)
      (others : List String) :
      operation.isMemoryAccess = true → Segment.ofName? word = none →
        Explains (operation.name :: word :: index :: others) (.unknownSegment word)
  | trailingInput {operation : Operation} (segment : Segment) (index : String)
      {others : List String} :
      operation.isMemoryAccess = true → others ≠ [] →
        Explains (operation.name :: segment.name :: index :: others)
          (.trailingInput (" ".intercalate others))
  | badIndex {operation : Operation} (segment : Segment) (index : String) :
      operation.isMemoryAccess = true →
        Explains [operation.name, segment.name, index] (.badIndex index)

/-- A line that is not rejected at its end has one of these explanations. -/
theorem explains_describe (line : String) :
    Explains (Text.words line) (describe line false) := by
  rw [describe]
  split
  next noWords => rw [noWords]; exact .empty
  next first operands words =>
    rw [words]
    split
    next unknown => exact .unknownOperation operands unknown
    next operation named =>
      obtain rfl : first = operation.name := Enumeration.ofName?_eq_some_iff.mp named
      split
      next arithmetic => exact .unexpectedOperands operands (by simpa using arithmetic)
      next access =>
        have isAccess : operation.isMemoryAccess = true := by simpa using access
        split
        next segment index trailing =>
          split
          next unknown =>
            exact .unknownSegment index trailing isAccess (Option.isNone_iff_eq_none.mp unknown)
          next known =>
            obtain ⟨place, placed⟩ : ∃ place, Segment.ofName? segment = some place :=
              Option.ne_none_iff_exists'.mp (by simpa using known)
            obtain rfl : segment = place.name := Enumeration.ofName?_eq_some_iff.mp placed
            cases trailing with
            | nil => exact .badIndex place index isAccess
            | cons word others => exact .trailingInput place index isAccess (by simp)
        next few =>
          refine .missingOperands isAccess ?_
          rcases operands with _ | ⟨segment, _ | ⟨index, trailing⟩⟩
          · simp
          · simp
          · exact absurd rfl (few segment index trailing)

theorem describe_access {line index : String} {operation : Operation} {segment : Segment}
    (isAccess : operation.isMemoryAccess = true)
    (words : Text.words line = [operation.name, segment.name, index]) :
    describe line false = .badIndex index := by
  rw [describe, words]
  simp [isAccess]

theorem Explains.unread {words : List String} {cause : Malformation}
    (explains : Explains words cause) (index : Nat) : cause ≠ .indexTooLarge index := by
  cases explains <;> simp

/-- An explanation with the same message is the same explanation. -/
theorem Explains.of_message_eq {words : List String} {cause : Malformation}
    (explains : Explains words cause) (other : Malformation)
    (unread : ∀ index, other ≠ .indexTooLarge index)
    (same : cause.message = other.message) : Explains words other :=
  eq_of_message_eq explains.unread unread same ▸ explains

end Malformation

namespace Sentence

theorem not_spelledBy_of_parse? {line : String} (unread : parse? line = none)
    (sentence : Sentence) : ¬ sentence.SpelledBy line.toList := by
  intro spelled
  rw [parse?_eq_some_iff.mpr spelled] at unread
  cases unread

/-- An arithmetic word that is left of a line is a sentence. -/
theorem exists_spelledBy_arithmetic {raw : String} {operation : Operation}
    (arithmetic : operation.isMemoryAccess = false)
    (single : Text.words (cleanLine raw) = [operation.name]) :
    ∃ sentence : Sentence, sentence.SpelledBy (cleanLine raw).toList := by
  have alone := Text.tokens_of_words single
  rw [cleanLine, String.toList_ofList] at alone ⊢
  rw [Text.eq_of_tokens_single alone (Text.head?_trim _) (Text.getLast?_trim _)]
  have none : Blanks [] := by simp [Blanks]
  cases operation with
  | add => exact ⟨add, .add none none⟩
  | sub => exact ⟨sub, .sub none none⟩
  | push | pop => cases arithmetic

/-- Without foreign blanks, the words of a memory access are a sentence. -/
theorem exists_spelledBy_access {text index : String} {operation : Operation}
    {segment : Segment} (isAccess : operation.isMemoryAccess = true)
    (words : Text.words text = [operation.name, segment.name, index])
    (numeral : Numeral index.toList) (familiar : ¬ Text.ForeignBlank text) :
    ∃ sentence : Sentence, sentence.SpelledBy text.toList := by
  have sameSeparators : ∀ character ∈ text.toList,
      isGap character = Text.isBlank character := by
    intro character member
    rw [Bool.eq_iff_iff]
    refine ⟨isBlank_of_isGap, fun blank => ?_⟩
    by_contra notGap
    refine familiar ⟨character, member, blank, ?_⟩
    simpa [isGap] using notGap
  have tokens : Text.tokens isGap text.toList =
      [operation.name.toList, segment.name.toList, index.toList] := by
    rw [Text.tokens_congr sameSeparators]
    exact Text.tokens_of_words words
  cases operation with
  | push => exact ⟨push segment index.toList,
      spelledBy_iff.mpr ⟨tokens, by simpa [digits?] using numeral⟩⟩
  | pop => exact ⟨pop segment index.toList,
      spelledBy_iff.mpr ⟨tokens, by simpa [digits?] using numeral⟩⟩
  | add | sub => cases isAccess

end Sentence

/-- What a message about a line tells truly: each wording is used only if it fits
the words of the line. -/
structure Explained (text message : String) : Prop where
  unknownOperation : ∀ word, message = "unknown operation " ++ Text.quote word →
    (Text.words text)[0]? = some word ∧ ∀ operation : Operation, word ≠ operation.name
  takesNoOperands : ∀ operation : Operation,
    message = operation.name ++ " takes no operands" →
      (Text.words text)[0]? = some operation.name ∧ 1 < (Text.words text).length
  needsOperands : ∀ operation : Operation,
    message = operation.name ++ " needs a segment and an index" →
      (Text.words text)[0]? = some operation.name ∧ (Text.words text).length < 3
  unknownSegment : ∀ word, message = "unknown segment " ++ Text.quote word →
    (Text.words text)[1]? = some word ∧ ∀ segment : Segment, word ≠ segment.name
  trailingInput : ∀ shown, message = "unexpected trailing input " ++ shown →
    3 < (Text.words text).length ∧
      shown = Text.quote (" ".intercalate ((Text.words text).drop 3))
  /-- The third word is no numeral, unless a foreign blank stands in the line. -/
  badIndex : ∀ word,
    message = "index must be a non-negative integer, got " ++ Text.quote word →
      (Text.words text)[2]? = some word ∧
        (Sentence.Numeral word.toList → Text.ForeignBlank text)

/-- A line that is cleaned and spells no sentence is explained truly. -/
theorem explained_of_unspelled {raw : String}
    (unspelled : ∀ sentence : Sentence, ¬ sentence.SpelledBy (cleanLine raw).toList) :
    Explained (cleanLine raw) (Malformation.describe (cleanLine raw) false).message := by
  have explains := Malformation.explains_describe (cleanLine raw)
  generalize Malformation.describe (cleanLine raw) false = cause at explains
  generalize words : Text.words (cleanLine raw) = list at explains
  constructor
  case unknownOperation =>
    intro word message
    rw [words]
    cases explains.of_message_eq (.unknownOperation word) (by simp) message with
    | unknownOperation others unknown =>
        refine ⟨rfl, ?_⟩
        rintro operation rfl
        simp at unknown
  case takesNoOperands =>
    intro operation message
    rw [words]
    cases explains.of_message_eq (.unexpectedOperands operation) (by simp) message with
    | unexpectedOperands others arithmetic =>
        refine ⟨rfl, ?_⟩
        cases others with
        | cons operand others => simp
        | nil =>
            -- The word alone would be a sentence, as no blank is left around it.
            obtain ⟨sentence, spelled⟩ :=
              Sentence.exists_spelledBy_arithmetic arithmetic words
            exact absurd spelled (unspelled sentence)
  case needsOperands =>
    intro operation message
    rw [words]
    cases explains.of_message_eq (.missingOperands operation) (by simp) message with
    | missingOperands _ few => exact ⟨rfl, Nat.succ_lt_succ few⟩
  case unknownSegment =>
    intro word message
    rw [words]
    cases explains.of_message_eq (.unknownSegment word) (by simp) message with
    | unknownSegment index others _ unknown =>
        refine ⟨rfl, ?_⟩
        rintro segment rfl
        simp at unknown
  case trailingInput =>
    intro shown message
    rw [words]
    have form : .trailingInput "" = cause.shape :=
      Malformation.eq_shape_of_opening explains.unread (by decide) message
    cases explains with
    | trailingInput segment index _ more =>
        exact ⟨by simpa [List.length_pos_iff] using more,
          ((String.append_right_inj _).mp message).symm⟩
    | _ => cases form
  case badIndex =>
    intro word message
    rw [words]
    cases explains.of_message_eq (.badIndex word) (by simp) message with
    | badIndex segment _ isAccess =>
        refine ⟨rfl, fun numeral => ?_⟩
        by_contra familiar
        obtain ⟨sentence, spelled⟩ :=
          Sentence.exists_spelledBy_access isAccess words numeral familiar
        exact unspelled sentence spelled

/-- Every diagnostic of a line outside the grammar calls it malformed and explains
it truly.  An index is blamed if and only if the line has the words of a memory
access, whether or not the third one is a numeral. -/
theorem rejected_line_explained {script : String} {policy : StaticPolicy}
    {lines : List String} {compilation : Compilation}
    (compiled : compile script policy lines = .ok compilation)
    {diagnostic : Diagnostic} (reported : diagnostic ∈ compilation.diagnostics)
    {text : String} (about : diagnostic.text = some text)
    (unspelled : ∀ sentence : Sentence, ¬ sentence.SpelledBy text.toList) :
    diagnostic.category = .malformed ∧ Explained text diagnostic.message ∧
      ∀ word, diagnostic.message =
          "index must be a non-negative integer, got " ++ Text.quote word ↔
        ∃ (operation : Operation) (segment : Segment),
          operation.isMemoryAccess = true ∧
            Text.words text = [operation.name, segment.name, word] := by
  rw [Compilation.diagnostics, complaints_of_compile compiled] at reported
  obtain ⟨⟨line, cause⟩, member, rfl⟩ := List.mem_map.mp reported
  obtain ⟨origin, isLine, complained⟩ := List.mem_filterMap.mp member
  obtain ⟨rfl, failed⟩ := SourceLine.complaint?_eq_some_iff.mp complained
  obtain ⟨_, raw, _, _, cleaned, _⟩ := mem_sourceLines_iff.mp isLine
  cases about
  have described : cause = .malformed (Malformation.describe line.text false) := by
    rw [compileLine, Command.parse_of_not_spelledBy unspelled] at failed
    injection failed with rejected
    injection rejected with same
    exact same.symm
  subst described
  refine ⟨rfl, ?_, fun word => ⟨fun message => ?_, ?_⟩⟩
  · rw [cleaned] at unspelled
    have explained := explained_of_unspelled unspelled
    rw [← cleaned] at explained
    exact explained
  · generalize words : Text.words line.text = list
    have explains := Malformation.explains_describe line.text
    rw [words] at explains
    cases explains.of_message_eq (.badIndex word) (by simp) message with
    | badIndex segment _ isAccess => exact ⟨_, segment, isAccess, rfl⟩
  · rintro ⟨operation, segment, isAccess, words⟩
    exact congrArg Malformation.message (Malformation.describe_access isAccess words)

/-- An index of another script, after foreign blanks, in a line with a comment. -/
theorem rejected_line_explained_foreign :
    let text := "push\u3000local\u00a0٣"
    ∃ compilation diagnostic,
      compile "Main" .symbols ["add", " " ++ text ++ " // three"] = .ok compilation ∧
      diagnostic ∈ compilation.diagnostics ∧ diagnostic.text = some text ∧
      (∀ sentence : Sentence, ¬ sentence.SpelledBy text.toList) ∧
      diagnostic.category = .malformed ∧ Explained text diagnostic.message ∧
      ∀ word, diagnostic.message =
          "index must be a non-negative integer, got " ++ Text.quote word ↔
        ∃ (operation : Operation) (segment : Segment),
          operation.isMemoryAccess = true ∧
            Text.words text = [operation.name, segment.name, word] := by
  intro text
  let complaint : Complaint := ⟨⟨2, text⟩, .malformed (.badIndex "٣")⟩
  have compiled : compile "Main" .symbols ["add", " " ++ text ++ " // three"] =
      .ok (.rejected complaint []) := by decide
  have unspelled : ∀ sentence : Sentence, ¬ sentence.SpelledBy text.toList :=
    Sentence.not_spelledBy_of_parse? (by decide)
  have reported : complaint.diagnostic ∈ (Compilation.rejected complaint []).diagnostics :=
    List.mem_cons_self
  exact ⟨_, complaint.diagnostic, compiled, reported, rfl, unspelled,
    rejected_line_explained compiled reported rfl unspelled⟩

/-- With a foreign blank before it, a numeral is said to be no integer. -/
theorem numeral_blamed_behind_foreign_blank :
    let text := "push local\u00a03"
    ∃ compilation diagnostic,
      compile "Main" .symbols [text] = .ok compilation ∧
      diagnostic ∈ compilation.diagnostics ∧ diagnostic.text = some text ∧
      (∀ sentence : Sentence, ¬ sentence.SpelledBy text.toList) ∧
      diagnostic.message = "index must be a non-negative integer, got " ++ Text.quote "3" ∧
      (Text.words text)[2]? = some "3" ∧ Sentence.Numeral "3".toList := by
  intro text
  let complaint : Complaint := ⟨⟨1, text⟩, .malformed (.badIndex "3")⟩
  have compiled : compile "Main" .symbols [text] = .ok (.rejected complaint []) := by decide
  have unspelled : ∀ sentence : Sentence, ¬ sentence.SpelledBy text.toList :=
    Sentence.not_spelledBy_of_parse? (by decide)
  exact ⟨_, complaint.diagnostic, compiled, List.mem_cons_self, rfl, unspelled, rfl,
    by decide, Sentence.numeral_iff_isIndex.mpr rfl⟩

end StackCompiler
