import StackCompiler.Text.Blank
import StackCompiler.Text.Quoted

/-!
# Hack instructions

A program of the target machine loads numbers or symbols into its address
register and computes with its two registers and one memory cell.  This file
gives the instructions, their printed form, and the reading of one instruction
from text.  Jumps are not part of the code considered here.
-/

namespace StackCompiler

/-- A value that a computation may use. -/
inductive Operand where
  | address
  | data
  | memory
  | zero
  | one
  deriving DecidableEq, Repr

/-- The operators between two operands. -/
inductive Operator where
  | plus
  | minus
  | conjunction
  | disjunction
  deriving DecidableEq, Repr

/-- The values that an instruction can compute. -/
inductive Computation where
  | copy (operand : Operand)
  | negate (operand : Operand)
  | complement (operand : Operand)
  | combine (left : Operand) (operator : Operator) (right : Operand)
  deriving DecidableEq, Repr

/-- Where a computed value goes. -/
structure Destination where
  address : Bool
  memory : Bool
  data : Bool
  deriving DecidableEq, Repr

/-- An instruction of the target machine. -/
inductive Instruction where
  /-- Load a number or the cell of a symbol into the address register. -/
  | load (symbol : String)
  | compute (destination : Destination) (computation : Computation)
  deriving DecidableEq, Repr

namespace Operand

def character : Operand → Char
  | address => 'A'
  | data => 'D'
  | memory => 'M'
  | zero => '0'
  | one => '1'

def ofChar? (character : Char) : Option Operand :=
  match character with
  | 'A' => some address
  | 'D' => some data
  | 'M' => some memory
  | '0' => some zero
  | '1' => some one
  | _ => none

@[simp]
theorem ofChar?_character (operand : Operand) :
    ofChar? operand.character = some operand := by
  cases operand <;> rfl

end Operand

namespace Operator

def character : Operator → Char
  | plus => '+'
  | minus => '-'
  | conjunction => '&'
  | disjunction => '|'

def ofChar? (character : Char) : Option Operator :=
  match character with
  | '+' => some plus
  | '-' => some minus
  | '&' => some conjunction
  | '|' => some disjunction
  | _ => none

@[simp]
theorem ofChar?_character (operator : Operator) :
    ofChar? operator.character = some operator := by
  cases operator <;> rfl

end Operator

/-- Why a text is no instruction. -/
inductive InstructionFault where
  | jump (text : String)
  | badOperand (character : Char)
  /-- The text has not the form of a computation. -/
  | badComputation (text : String)
  deriving DecidableEq, Repr

def InstructionFault.message : InstructionFault → String
  | .jump text => "jumps are not expected: " ++ Text.quote text
  | .badOperand character =>
      "bad operand " ++ Text.quote (String.singleton character)
  | .badComputation text => "bad comp " ++ Text.quote text

namespace Operand

def parse (character : Char) : Except InstructionFault Operand :=
  match ofChar? character with
  | some operand => .ok operand
  | none => .error (.badOperand character)

@[simp]
theorem parse_character (operand : Operand) :
    parse operand.character = .ok operand := by
  simp [parse]

end Operand

namespace Computation

def render : Computation → String
  | copy operand => String.ofList [operand.character]
  | negate operand => String.ofList ['-', operand.character]
  | complement operand => String.ofList ['!', operand.character]
  | combine left operator right =>
      String.ofList [left.character, operator.character, right.character]

/-- Read a computation.  Both operands of an operator are read before the
operator itself. -/
def parse (text : List Char) : Except InstructionFault Computation :=
  match text with
  | [single] => (Operand.parse single).map copy
  | [sign, single] =>
      if sign = '-' then (Operand.parse single).map negate
      else if sign = '!' then (Operand.parse single).map complement
      else .error (.badComputation (String.ofList text))
  | [first, middle, last] => do
      let left ← Operand.parse first
      let right ← Operand.parse last
      match Operator.ofChar? middle with
      | some operator => return combine left operator right
      | none => .error (.badComputation (String.ofList text))
  | _ => .error (.badComputation (String.ofList text))

theorem parse_render (computation : Computation) :
    parse computation.render.toList = .ok computation := by
  cases computation <;>
    simp [render, parse, Except.map, bind, Except.bind, pure, Except.pure]

end Computation

namespace Destination

def nowhere : Destination := ⟨false, false, false⟩

def render (destination : Destination) : String :=
  (if destination.address then "A" else "") ++
    (if destination.memory then "M" else "") ++
    (if destination.data then "D" else "")

/-- Read a destination: a value goes to each register that the text
mentions. -/
def parse (text : List Char) : Destination :=
  ⟨text.contains 'A', text.contains 'M', text.contains 'D'⟩

theorem parse_render (destination : Destination) :
    parse destination.render.toList = destination := by
  obtain ⟨address, memory, data⟩ := destination
  cases address <;> cases memory <;> cases data <;> rfl

end Destination

namespace Instruction

def render : Instruction → String
  | load symbol => "@" ++ symbol
  | compute destination computation =>
      if destination = .nowhere then computation.render
      else destination.render ++ "=" ++ computation.render

def parse (text : String) : Except InstructionFault Instruction :=
  match text.toList with
  | '@' :: symbol => .ok (load (String.ofList symbol))
  | characters =>
      if characters.contains ';' then
        .error (.jump text)
      else
        match Text.splitFirst '=' characters with
        | (computation, none) =>
            (Computation.parse computation).map (compute .nowhere)
        | (destination, some computation) =>
            (Computation.parse computation).map
              (compute (Destination.parse destination))

end Instruction

end StackCompiler
