import StackCompiler.Address
import StackCompiler.Assembly.Instruction
import StackCompiler.Assembly.Program

/-!
# Code generation

Every command becomes one block of instructions.  The blocks are put together
from three short sequences: load a value into the data register, push the data
register, and pop into the data register.  Popping through a base pointer
computes its target first and keeps it in the scratch cell, because the address
register is needed for the stack pointer.
-/

namespace StackCompiler

def Block.ofInstructions (comment : String) (instructions : List Instruction) :
    Block :=
  ⟨comment, instructions.map Instruction.render⟩

namespace Codegen

def setAddress (computation : Computation) : Instruction :=
  .compute ⟨true, false, false⟩ computation

def setData (computation : Computation) : Instruction :=
  .compute ⟨false, false, true⟩ computation

/-- Store a computed value in the addressed memory cell. -/
def setMemory (computation : Computation) : Instruction :=
  .compute ⟨false, true, false⟩ computation

/-- Push the data register: the pointer moves up, then the freed cell is
written. -/
def pushData : List Instruction :=
  [.load Address.stackPointer,
    setMemory (.combine .memory .plus .one),
    setAddress (.combine .memory .minus .one),
    setMemory (.copy .data)]

/-- Pop into the data register: the pointer moves down to the topmost value,
which is then read. -/
def popData : List Instruction :=
  [.load Address.stackPointer,
    .compute ⟨true, true, false⟩ (.combine .memory .minus .one),
    setData (.copy .memory)]

/-- Load the value at an address into the data register. -/
def loadData : Address → List Instruction
  | .literal symbol => [.load symbol, setData (.copy .address)]
  | .direct symbol => [.load symbol, setData (.copy .memory)]
  | .indirect base offset =>
      [.load base,
        setData (.copy .memory),
        .load (toString offset),
        setAddress (.combine .address .plus .data),
        setData (.copy .memory)]

/-- Leave the data register combined from the two topmost values on the stack
in their place. -/
def combineTop (operator : Operator) : List Instruction :=
  [.load Address.stackPointer,
    setMemory (.combine .memory .minus .one),
    setAddress (.combine .memory .minus .one),
    setData (.copy .memory),
    setAddress (.combine .address .plus .one),
    setData (.combine .data operator .memory),
    setAddress (.combine .address .minus .one),
    setMemory (.copy .data)]

def arithmeticBlock (operator : Operator) : Block :=
  .ofInstructions "Performing general sub or add" (combineTop operator)

def arithmetic : Operation → Except Restriction Block
  | .add => .ok (arithmeticBlock .plus)
  | .sub => .ok (arithmeticBlock .minus)
  | operation => .error (.notArithmetic operation)

/-- The word for a segment in the comment of a push. -/
def pushWord : Segment → String
  | .temp => "temp"
  | .constant => "constant"
  | .pointer => "pointer"
  | .static => "static"
  | _ => "general"

/-- The word for a segment in the comment of a pop. -/
def popWord : Segment → String
  | .temp => "temp"
  | .pointer => "pointer"
  | .static => "static"
  | _ => "general"

/-- The block that pushes the value at an address. -/
def push (segment : Segment) (address : Address) : Block :=
  .ofInstructions ("Performing " ++ pushWord segment ++ " push")
    (loadData address ++ pushData)

def popDirect (symbol : String) : List Instruction :=
  popData ++ [.load symbol, setMemory (.copy .data)]

def popIndirect (base : String) (offset : Int) : List Instruction :=
  [.load base,
      setData (.copy .memory),
      .load (toString offset),
      setData (.combine .address .plus .data),
      .load Address.scratch,
      setMemory (.copy .data)] ++
    popData ++
    [.load Address.scratch,
      setAddress (.copy .memory),
      setMemory (.copy .data)]

/-- The block that pops into an address.  A literal has no cell to pop into. -/
def pop (segment : Segment) (address : Address) : Except Restriction Block :=
  let comment := "Performing " ++ popWord segment ++ " pop"
  match address with
  | .literal _ => .error (.popInto segment)
  | .direct symbol => .ok (.ofInstructions comment (popDirect symbol))
  | .indirect base offset =>
      .ok (.ofInstructions comment (popIndirect base offset))

/-- The block of a memory access.  Popping into a constant is refused before
any address is formed. -/
def memoryAccess (script : String) (policy : StaticPolicy) :
    Command → Except Restriction Block
  | .push segment index =>
      (Address.ofSegment script policy segment index).map (push segment)
  | .pop .constant _ => .error (.popInto .constant)
  | .pop segment index =>
      (Address.ofSegment script policy segment index).bind (pop segment)
  | command => .error (.notMemoryAccess command.operation)

def block (script : String) (policy : StaticPolicy) (command : Command) :
    Except Restriction Block :=
  if command.operation.isMemoryAccess then memoryAccess script policy command
  else arithmetic command.operation

end Codegen

end StackCompiler
