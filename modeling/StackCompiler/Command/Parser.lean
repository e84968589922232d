import StackCompiler.Command.Basic
import StackCompiler.Text.Numeral

/-!
# Reading a command

A line holds one command: `add` or `sub` alone, or `push` or `pop` with a
segment and an index.  The words are separated by spaces and tabs, and nothing
else counts as a separator.  A line outside this grammar is explained by looking
at its words once more, now divided at every kind of blank.
-/

namespace StackCompiler

/-- Why a line is no command. -/
inductive Malformation where
  | empty
  | unknownOperation (word : String)
  /-- An arithmetic operation stands in a line that holds more than itself. -/
  | unexpectedOperands (operation : Operation)
  /-- A memory access has fewer than two words after it. -/
  | missingOperands (operation : Operation)
  | unknownSegment (word : String)
  | trailingInput (text : String)
  | incomplete
  /-- The third word is not taken for an index. -/
  | badIndex (word : String)
  /-- The index is larger than an instruction can load. -/
  | indexTooLarge (index : Nat)
  deriving DecidableEq, Repr

/-- The largest index: the largest number that an instruction can load. -/
def maxIndex : Nat := 32767

def Malformation.message : Malformation → String
  | .empty => "empty command"
  | .unknownOperation word => "unknown operation " ++ Text.quote word
  | .unexpectedOperands operation => operation.name ++ " takes no operands"
  | .missingOperands operation =>
      operation.name ++ " needs a segment and an index"
  | .unknownSegment word => "unknown segment " ++ Text.quote word
  | .trailingInput text => "unexpected trailing input " ++ Text.quote text
  | .incomplete => "incomplete command"
  | .badIndex word =>
      "index must be a non-negative integer, got " ++ Text.quote word
  | .indexTooLarge index =>
      "index " ++ toString index ++ " is out of range 0.." ++ toString maxIndex

/-- Explain a line that the grammar rejects.  The reasons are tried from the
first word to the last; `atEnd` tells that the line was rejected at its end. -/
def Malformation.describe (line : String) (atEnd : Bool) : Malformation :=
  match Text.words line with
  | [] => .empty
  | first :: operands =>
      match Operation.ofName? first with
      | none => .unknownOperation first
      | some operation =>
          if !operation.isMemoryAccess then
            .unexpectedOperands operation
          else
            match operands with
            | segment :: index :: trailing =>
                if (Segment.ofName? segment).isNone then .unknownSegment segment
                else if !trailing.isEmpty then
                  .trailingInput (" ".intercalate trailing)
                else if atEnd then .incomplete
                else .badIndex index
            | _ => .missingOperands operation

/-- An index that has more digits than a numeral may have. -/
structure OversizeIndex where
  digits : Nat
  deriving DecidableEq, Repr

def OversizeIndex.message (oversize : OversizeIndex) : String :=
  "Error trying to process rule \"memory_cmd\":\n\n" ++
    Text.tooLongMessage oversize.digits

/-- Why a line yields no command. -/
inductive ParseFault where
  | malformed (cause : Malformation)
  /-- The index is a numeral beyond the digit limit. -/
  | oversizeIndex (oversize : OversizeIndex)
  deriving DecidableEq, Repr

/-- A line of the grammar, before its index is read as a number. -/
inductive Sentence where
  | add
  | sub
  | push (segment : Segment) (digits : List Char)
  | pop (segment : Segment) (digits : List Char)
  deriving DecidableEq, Repr

namespace Sentence

def isGap (character : Char) : Bool :=
  character == ' ' || character == '\t'

/-- Whether a token is a nonempty run of the digits 0 to 9. -/
def isIndex (token : List Char) : Bool :=
  !token.isEmpty && token.all Char.isDigit

def ofTokens? : List (List Char) → Option Sentence
  | [word] =>
      match Operation.ofName? (String.ofList word) with
      | some .add => some add
      | some .sub => some sub
      | _ => none
  | [word, place, index] =>
      match Operation.ofName? (String.ofList word),
          Segment.ofName? (String.ofList place), isIndex index with
      | some .push, some segment, true => some (push segment index)
      | some .pop, some segment, true => some (pop segment index)
      | _, _, _ => none
  | _ => none

def parse? (line : String) : Option Sentence :=
  ofTokens? (Text.tokens isGap line.toList)

def readIndex (digits : List Char) : Except ParseFault Nat :=
  if Text.digitLimit < digits.length then
    .error (.oversizeIndex ⟨digits.length⟩)
  else
    let index := Nat.ofDigitChars 10 digits 0
    if maxIndex < index then
      .error (.malformed (.indexTooLarge index))
    else
      .ok index

def command : Sentence → Except ParseFault Command
  | add => .ok .add
  | sub => .ok .sub
  | push segment digits => (readIndex digits).map (.push segment)
  | pop segment digits => (readIndex digits).map (.pop segment)

end Sentence

def Command.parse (line : String) : Except ParseFault Command :=
  match Sentence.parse? line with
  | some sentence => sentence.command
  | none => .error (.malformed (Malformation.describe line false))

end StackCompiler
