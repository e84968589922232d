import Mathlib.Logic.Function.Basic
import StackCompiler.Machine.Basic
import StackCompiler.Proofs.GeneratedCode

/-!
# The stack machine

This is the machine that commands are written for.  It has a stack of words of
its own, four base registers, eight temporary cells, a static cell for each
index, and a heap that starts at a limit.  A command either takes it to the
next state or violates one of the rules that a well-behaved program keeps: it
does not pop from the empty stack, its stack stays below the limit, and it
reaches the heap only through base registers and at or above the limit.
-/

namespace StackCompiler

/-- A word of the stack machine. -/
abbrev Word := BitVec 16

/-- The cell of the target machine that holds a base register. -/
def BaseRegister.cell : BaseRegister → Nat
  | locals => 1
  | argument => 2
  | this => 3
  | that => 4

/-- A state of the stack machine. -/
structure StackMachine where
  /-- The stack, topmost word first. -/
  stack : List Word
  bases : BaseRegister → Word
  temps : Fin 8 → Word
  statics : Nat → Word
  heap : Word → Word

namespace StackMachine

/-- Where the stack machine keeps a word, its stack apart. -/
inductive Cell where
  | base (register : BaseRegister)
  | temp (index : Fin 8)
  | static (index : Nat)
  | heap (address : Word)
  deriving DecidableEq, Repr

/-- How a command violates the rules. -/
inductive Violation where
  /-- A word is taken from the empty stack. -/
  | underflow
  /-- The stack grows beyond the limit. -/
  | overflow
  /-- An effective address lies below the limit. -/
  | lowAddress (address : Word)
  /-- The segment has no such cell. -/
  | noCell (segment : Segment) (index : Nat)
  deriving DecidableEq, Repr

/-- The word in a cell. -/
def read (state : StackMachine) : Cell → Word
  | .base register => state.bases register
  | .temp index => state.temps index
  | .static index => state.statics index
  | .heap address => state.heap address

/-- Change the word in a cell. -/
def write (state : StackMachine) (cell : Cell) (word : Word) : StackMachine :=
  match cell with
  | .base register =>
      { state with bases := Function.update state.bases register word }
  | .temp index => { state with temps := Function.update state.temps index word }
  | .static index =>
      { state with statics := Function.update state.statics index word }
  | .heap address =>
      { state with heap := Function.update state.heap address word }

@[simp]
theorem stack_write (state : StackMachine) (cell : Cell) (word : Word) :
    (state.write cell word).stack = state.stack := by
  cases cell <;> rfl

theorem read_write (state : StackMachine) (cell other : Cell) (word : Word) :
    (state.write cell word).read other =
      if other = cell then word else state.read other := by
  cases cell <;> cases other <;>
    simp [read, write, Function.update_apply]

/-- The cell that an index reaches from a base register.  The effective address
is the sum of the two as a word. -/
def reach (limit : Nat) (state : StackMachine) (register : BaseRegister)
    (index : Nat) : Except Violation Cell :=
  let address := state.bases register + BitVec.ofNat 16 index
  if limit ≤ address.toNat then .ok (.heap address)
  else .error (.lowAddress address)

/-- The cell of a segment.  The cells of the pointer segment are two of the base
registers themselves. -/
def locate (limit : Nat) (state : StackMachine) :
    Segment → Nat → Except Violation Cell
  | .locals, index => state.reach limit .locals index
  | .argument, index => state.reach limit .argument index
  | .this, index => state.reach limit .this index
  | .that, index => state.reach limit .that index
  | .temp, index =>
      if inside : index < 8 then .ok (.temp ⟨index, inside⟩)
      else .error (.noCell .temp index)
  | .pointer, 0 => .ok (.base .this)
  | .pointer, 1 => .ok (.base .that)
  | .pointer, index => .error (.noCell .pointer index)
  | .static, index => .ok (.static index)
  | .constant, index => .error (.noCell .constant index)

/-- The word that a segment holds at an index. -/
def value (limit : Nat) (state : StackMachine) :
    Segment → Nat → Except Violation Word
  | .constant, index => .ok (BitVec.ofNat 16 index)
  | segment, index => (state.locate limit segment index).map state.read

/-- The first cell of the stack in the target machine. -/
def stackStart : Nat := 256

/-- Push a word. -/
def push (limit : Nat) (state : StackMachine) (word : Word) :
    Except Violation StackMachine :=
  if stackStart + (state.stack.length + 1) ≤ limit then
    .ok { state with stack := word :: state.stack }
  else
    .error .overflow

/-- Replace the two topmost words by a combination of them. -/
def combine (state : StackMachine) (operation : Word → Word → Word) :
    Except Violation StackMachine :=
  match state.stack with
  | right :: left :: rest =>
      .ok { state with stack := operation left right :: rest }
  | _ => .error .underflow

/-- Move the topmost word into a cell of a segment. -/
def pop (limit : Nat) (state : StackMachine) (segment : Segment) (index : Nat) :
    Except Violation StackMachine :=
  match state.stack with
  | word :: rest =>
      (state.locate limit segment index).map fun cell =>
        { state with stack := rest }.write cell word
  | [] => .error .underflow

/-- Execute a command. -/
def execute (limit : Nat) (state : StackMachine) :
    Command → Except Violation StackMachine
  | .add => state.combine (· + ·)
  | .sub => state.combine (· - ·)
  | .push segment index => (state.value limit segment index).bind (state.push limit)
  | .pop segment index => state.pop limit segment index

/-- Execute commands in order, up to the first violation. -/
def run (limit : Nat) (state : StackMachine) (commands : List Command) :
    Except Violation StackMachine :=
  commands.foldlM (execute limit) state

/-- The stack machine that a state of the target machine stands for at the
start: nothing on the stack, and all static cells zero. -/
def ofMachine (machine : Machine) : StackMachine where
  stack := []
  bases register := BitVec.ofNat 16 (machine.memory.read register.cell)
  temps index := BitVec.ofNat 16 (machine.memory.read (5 + index : Nat))
  statics _ := 0
  heap address := BitVec.ofNat 16 (machine.memory.read address.toNat)

theorem reach_eq_ok {limit : Nat} {state : StackMachine} {register : BaseRegister}
    {index : Nat} {cell : Cell} (reached : state.reach limit register index = .ok cell) :
    limit ≤ (state.bases register + BitVec.ofNat 16 index).toNat ∧
      cell = .heap (state.bases register + BitVec.ofNat 16 index) := by
  simp only [reach] at reached
  split at reached
  next inside =>
    cases reached
    exact ⟨inside, rfl⟩
  next => cases reached

@[simp]
theorem locate_segment (limit : Nat) (state : StackMachine)
    (register : BaseRegister) (index : Nat) :
    state.locate limit register.segment index = state.reach limit register index := by
  cases register <;> rfl

theorem value_of_ne_constant (limit : Nat) (state : StackMachine)
    {segment : Segment} (notConstant : segment ≠ .constant) (index : Nat) :
    state.value limit segment index =
      (state.locate limit segment index).map state.read := by
  cases segment with
  | constant => exact absurd rfl notConstant
  | locals | argument | this | that | temp | pointer | static => rfl

theorem push_eq_ok {limit : Nat} {state next : StackMachine} {word : Word}
    (pushed : state.push limit word = .ok next) :
    stackStart + (state.stack.length + 1) ≤ limit ∧
      next = { state with stack := word :: state.stack } := by
  rw [push] at pushed
  split at pushed
  next fits =>
    cases pushed
    exact ⟨fits, rfl⟩
  next => cases pushed

theorem combine_eq_ok {state next : StackMachine}
    {operation : Word → Word → Word}
    (combined : state.combine operation = .ok next) :
    ∃ left right rest, state.stack = right :: left :: rest ∧
      next = { state with stack := operation left right :: rest } := by
  rw [combine] at combined
  split at combined
  next right left rest stack =>
    cases combined
    exact ⟨left, right, rest, stack, rfl⟩
  next => cases combined

theorem pop_eq_ok {limit : Nat} {state next : StackMachine} {segment : Segment}
    {index : Nat} (popped : state.pop limit segment index = .ok next) :
    ∃ word rest cell, state.stack = word :: rest ∧
      state.locate limit segment index = .ok cell ∧
      next = { state with stack := rest }.write cell word := by
  rw [pop] at popped
  split at popped
  next word rest stack =>
    cases located : state.locate limit segment index with
    | error violation =>
        rw [located] at popped
        cases popped
    | ok cell =>
        rw [located] at popped
        cases popped
        exact ⟨word, rest, cell, stack, rfl, rfl⟩
  next => cases popped

end StackMachine

/-- The static index that a cell of a segment has. -/
def Segment.static? : Segment → Nat → Option Nat
  | .static, index => some index
  | _, _ => none

@[simp]
theorem BaseRegister.static?_segment (register : BaseRegister) (index : Nat) :
    register.segment.static? index = none := by
  cases register <;> rfl

/-- The static index that a command uses. -/
def Command.static? : Command → Option Nat
  | push segment index | pop segment index => segment.static? index
  | add | sub => none

end StackCompiler
