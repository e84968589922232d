import StackCompiler.Assembly.Instruction
import StackCompiler.Machine.Memory
import StackCompiler.Machine.SymbolTable
import StackCompiler.Text.Numeral

/-!
# The target machine

The machine has two registers, a memory and a symbol table.  It executes
straight-line code, one instruction after the other.  Sums, differences and
complements are cut to a machine word; a loaded number, and whatever is copied
from it, is not.

Registers, cells and the log of written addresses hold no negative numbers.  A
loaded number has no sign, a symbol stands for a cell from zero on, and what is
computed is a copy, a word or a bitwise combination of such numbers.  No run from
the initial state meets a negative one, and states that hold any are not
represented.
-/

namespace StackCompiler

/-- A state of the target machine.  Only numbers from zero on occur in it. -/
structure Machine where
  memory : Memory
  address : Nat
  data : Nat
  symbols : SymbolTable
  /-- The addresses that instructions have written to, in order. -/
  written : List Nat
  deriving DecidableEq, Repr

/-- A cell given by its address or by a symbol. -/
inductive Location where
  | cell (address : Int)
  | symbol (name : String)
  deriving DecidableEq, Repr

/-- Why an instruction is not executed. -/
inductive MachineFault where
  | instruction (fault : InstructionFault)
  /-- The loaded text looks like a number and is none. -/
  | numeral (fault : Text.NumeralFault)
  deriving DecidableEq, Repr

def MachineFault.message : MachineFault → String
  | .instruction fault => fault.message
  | .numeral fault => fault.message

namespace Machine

def initial : Machine := ⟨.empty, 0, 0, .initial, []⟩

/-- The cell of a symbol, binding it if it was unknown. -/
def locateSymbol (machine : Machine) (name : String) : Nat × Machine :=
  let (cell, symbols) := machine.symbols.locate name
  (cell, { machine with symbols })

/-- The address of a location, binding an unknown symbol. -/
def locate (machine : Machine) : Location → Int × Machine
  | .cell address => (address, machine)
  | .symbol name =>
      let (cell, machine) := machine.locateSymbol name
      (cell, machine)

def read (machine : Machine) (location : Location) : Int × Machine :=
  let (address, machine) := machine.locate location
  (toSigned (machine.memory.read address), machine)

/-- Store a number at a location as a machine word. -/
def write (machine : Machine) (location : Location) (value : Int) : Machine :=
  let (address, machine) := machine.locate location
  { machine with memory := machine.memory.write address (toWord value) }

def operandValue (machine : Machine) : Operand → Nat
  | .address => machine.address
  | .data => machine.data
  | .memory => machine.memory.read machine.address
  | .zero => 0
  | .one => 1

def combine (left right : Nat) : Operator → Nat
  | .plus => toWord (left + right)
  | .minus => toWord ((left : Int) - right)
  | .conjunction => left &&& right
  | .disjunction => left ||| right

def computeValue (machine : Machine) : Computation → Nat
  | .copy operand => machine.operandValue operand
  | .negate operand => toWord (-(machine.operandValue operand : Int))
  | .complement operand => toWord (-(machine.operandValue operand : Int) - 1)
  | .combine left operator right =>
      combine (machine.operandValue left) (machine.operandValue right) operator

/-- Store a computed value.  Memory is written first, at the address that the
register holds before it is changed itself. -/
def store (machine : Machine) (destination : Destination) (value : Nat) :
    Machine :=
  let memory :=
    if destination.memory then machine.memory.write machine.address value
    else machine.memory
  let written :=
    if destination.memory then machine.written ++ [machine.address]
    else machine.written
  let address := if destination.address then value else machine.address
  let data := if destination.data then value else machine.data
  { machine with memory, address, data, written }

/-- Load a number, or the cell of a symbol if the text holds anything but
digits. -/
def load (machine : Machine) (symbol : String) : Except MachineFault Machine :=
  let characters := symbol.toList
  if !characters.isEmpty && characters.all Text.isDigit then
    match Text.readDecimal characters with
    | .ok number => .ok { machine with address := number }
    | .error fault => .error (.numeral fault)
  else
    let (cell, machine) := machine.locateSymbol symbol
    .ok { machine with address := cell }

def execute (machine : Machine) : Instruction → Except MachineFault Machine
  | .load symbol => machine.load symbol
  | .compute destination computation =>
      .ok (machine.store destination (machine.computeValue computation))

/-- Execute the instruction that a text states. -/
def step (machine : Machine) (text : String) : Except MachineFault Machine :=
  match Instruction.parse text with
  | .error fault => .error (.instruction fault)
  | .ok instruction => machine.execute instruction

/-- A run that ended at a fault, with the machine as it was reached. -/
structure Halt where
  fault : MachineFault
  machine : Machine
  deriving DecidableEq, Repr

/-- The instruction on a line of a program, unless it is blank or a
comment. -/
def instructionText? (line : String) : Option String :=
  match Text.trim line.toList with
  | [] => none
  | '/' :: '/' :: _ => none
  | characters => some (String.ofList characters)

/-- Execute the lines of a program up to the first fault. -/
def run (machine : Machine) : List String → Except Halt Machine
  | [] => .ok machine
  | line :: rest =>
      match instructionText? line with
      | none => machine.run rest
      | some text =>
          match machine.step text with
          | .error fault => .error ⟨fault, machine⟩
          | .ok machine => machine.run rest

def stackPointer : Location := .symbol "SP"

/-- Push a number onto the stack from outside the machine. -/
def push (machine : Machine) (value : Int) : Machine :=
  let (top, machine) := machine.read stackPointer
  let machine := machine.write (.cell top) value
  let (top, machine) := machine.read stackPointer
  machine.write stackPointer (top + 1)

/-- Push numbers onto the stack from outside the machine, in order. -/
def pushAll (machine : Machine) (values : List Int) : Machine :=
  values.foldl push machine

def stackBase : Int := 256

/-- The signed values from a first cell up to the stack pointer. -/
def stack (machine : Machine) (base : Int) : List Int × Machine :=
  let (top, machine) := machine.read stackPointer
  ((List.range (top - base).toNat).map fun (depth : Nat) =>
    toSigned (machine.memory.read (base + depth)), machine)

end Machine

end StackCompiler
