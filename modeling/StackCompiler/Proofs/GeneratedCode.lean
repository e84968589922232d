import StackCompiler.Codegen
import StackCompiler.Command.Parser

/-!
# The forms of generated code

Code generation is a function that may refuse a command.  Here its successful
results are listed by their form: which address a segment cell has, and which
instructions a command becomes.  Later arguments go through these forms one by
one and never look at the generating functions again.
-/

namespace StackCompiler

/-- The registers that hold where a segment starts. -/
inductive BaseRegister where
  | locals
  | argument
  | this
  | that
  deriving DecidableEq, Repr

namespace BaseRegister

/-- The segment that starts at a register. -/
def segment : BaseRegister → Segment
  | locals => .locals
  | argument => .argument
  | this => .this
  | that => .that

/-- The symbol of a register. -/
def symbol : BaseRegister → String
  | locals => "LCL"
  | argument => "ARG"
  | this => "THIS"
  | that => "THAT"

end BaseRegister

/-- The forms of the address of a segment cell. -/
inductive Address.Form (script : String) : Segment → Nat → Address → Prop
  | based (register : BaseRegister) (index : Nat) :
      Form script register.segment index (.indirect register.symbol index)
  | temp {index : Nat} :
      index < Address.tempSize →
        Form script .temp index (.direct (toString (Address.tempBase + index)))
  | pointerThis : Form script .pointer 0 (.direct BaseRegister.this.symbol)
  | pointerThat : Form script .pointer 1 (.direct BaseRegister.that.symbol)
  | constant (index : Nat) :
      Form script .constant index (.literal (toString index))
  | static (index : Nat) :
      Form script .static index (.direct (Address.staticSymbol script index))

theorem Address.ofSegment_temp (script : String) (policy : StaticPolicy) (index : Nat) :
    ofSegment script policy .temp index =
      if index < tempSize then .ok (direct (toString (tempBase + index)))
      else .error (.tempIndex index) := rfl

/-- Every address that is found has one of the forms. -/
theorem Address.form_of_ofSegment {script : String} {policy : StaticPolicy}
    {segment : Segment} {index : Nat} {address : Address}
    (found : ofSegment script policy segment index = .ok address) :
    Form script segment index address := by
  cases segment with
  | locals => cases found; exact .based .locals index
  | argument => cases found; exact .based .argument index
  | this => cases found; exact .based .this index
  | that => cases found; exact .based .that index
  | constant => cases found; exact .constant index
  | temp =>
      rw [ofSegment_temp] at found
      split at found
      next inside => cases found; exact .temp inside
      next => cases found
  | pointer =>
      match index with
      | 0 => cases found; exact .pointerThis
      | 1 => cases found; exact .pointerThat
      | _ + 2 => cases found
  | static =>
      cases policy with
      | symbols => cases found; exact .static index
      | reject => cases found

theorem Address.ofSegment_of_resolve {script : String} {policy : StaticPolicy}
    {segment : Segment} {index : Nat} {address : Address}
    (found : resolve script policy (some segment) index = .ok address) :
    ofSegment script policy segment index = .ok address := by
  change (ofSegment script policy segment index).mapError Fault.restricted = .ok address at found
  cases outcome : ofSegment script policy segment index with
  | error cause =>
      rw [outcome] at found
      cases found
  | ok other =>
      rw [outcome] at found
      cases found
      rfl

/-- Outside the static segment, neither the script nor the policy counts. -/
theorem Address.ofSegment_of_ne_static {segment : Segment} (notStatic : segment ≠ .static)
    (script other : String) (policy otherPolicy : StaticPolicy) (index : Nat) :
    ofSegment script policy segment index = ofSegment other otherPolicy segment index := by
  cases segment with
  | static => exact absurd rfl notStatic
  | pointer =>
      match index with
      | 0 | 1 | _ + 2 => rfl
  | locals | argument | this | that | temp | constant => rfl

namespace Codegen

/-- The forms of the instructions of a command. -/
inductive Emits (script : String) : Command → List Instruction → Prop
  | add : Emits script .add (combineTop .plus)
  | sub : Emits script .sub (combineTop .minus)
  | push {segment : Segment} {index : Nat} {address : Address} :
      Address.Form script segment index address →
        Emits script (.push segment index) (loadData address ++ pushData)
  | popDirect {segment : Segment} {index : Nat} {symbol : String} :
      Address.Form script segment index (.direct symbol) →
        Emits script (.pop segment index) (popDirect symbol)
  | popIndirect {segment : Segment} {index : Nat} {base : String} {offset : Int} :
      Address.Form script segment index (.indirect base offset) →
        Emits script (.pop segment index) (popIndirect base offset)

theorem memoryAccess_pop (script : String) (policy : StaticPolicy)
    {segment : Segment} (notConstant : segment ≠ .constant) (index : Nat) :
    memoryAccess script policy (.pop segment index) =
      (Address.ofSegment script policy segment index).bind (pop segment) := by
  cases segment with
  | constant => exact absurd rfl notConstant
  | locals | argument | this | that | temp | pointer | static => rfl

theorem emits_of_pop {script : String} {segment : Segment} {index : Nat}
    {address : Address} {block : Block}
    (form : Address.Form script segment index address)
    (generated : pop segment address = .ok block) :
    ∃ comment instructions, block = .ofInstructions comment instructions ∧
      Emits script (.pop segment index) instructions := by
  cases address with
  | literal symbol => cases generated
  | direct symbol =>
      cases generated
      exact ⟨_, _, rfl, .popDirect form⟩
  | indirect base offset =>
      cases generated
      exact ⟨_, _, rfl, .popIndirect form⟩

/-- Every block that is generated has one of the forms. -/
theorem emits_of_block {script : String} {policy : StaticPolicy}
    {command : Command} {block : Block}
    (generated : Codegen.block script policy command = .ok block) :
    ∃ comment instructions, block = .ofInstructions comment instructions ∧
      Emits script command instructions := by
  cases command with
  | add => cases generated; exact ⟨_, _, rfl, .add⟩
  | sub => cases generated; exact ⟨_, _, rfl, .sub⟩
  | push segment index =>
      change (Address.ofSegment script policy segment index).map
        (Codegen.push segment) = .ok block at generated
      cases found : Address.ofSegment script policy segment index with
      | error cause =>
          rw [found] at generated
          cases generated
      | ok address =>
          rw [found] at generated
          cases generated
          exact ⟨_, _, rfl, .push (Address.form_of_ofSegment found)⟩
  | pop segment index =>
      change memoryAccess script policy (.pop segment index) = .ok block
        at generated
      by_cases isConstant : segment = .constant
      · subst isConstant
        cases generated
      · rw [memoryAccess_pop script policy isConstant] at generated
        cases found : Address.ofSegment script policy segment index with
        | error cause =>
            rw [found] at generated
            cases generated
        | ok address =>
            rw [found] at generated
            exact emits_of_pop (Address.form_of_ofSegment found) generated

end Codegen

/-- The forms of single instructions in the code of a script.  What is loaded
is a small number, a reserved cell or a static symbol. -/
inductive Instruction.Emitted (script : String) : Instruction → Prop
  | number {number : Nat} :
      number ≤ maxIndex → Emitted script (.load (toString number))
  | cell {name : String} :
      name ∈ Address.reserved → Emitted script (.load name)
  | static {index : Nat} :
      index ≤ maxIndex →
        Emitted script (.load (Address.staticSymbol script index))
  | compute (destination : Destination) (computation : Computation) :
      Emitted script (.compute destination computation)

theorem BaseRegister.symbol_mem_reserved (register : BaseRegister) :
    register.symbol ∈ Address.reserved := by
  cases register <;> decide

section LoadedForms

variable {script : String} {segment : Segment} {index : Nat}

theorem Address.Form.emitted_direct {symbol : String}
    (form : Form script segment index (.direct symbol))
    (small : index ≤ maxIndex) :
    Instruction.Emitted script (.load symbol) := by
  cases form with
  | temp inside =>
      apply Instruction.Emitted.number
      have : tempBase + index < tempBase + tempSize := Nat.add_lt_add_left inside _
      exact Nat.le_trans (Nat.le_of_lt this) (by decide)
  | pointerThis => exact .cell (BaseRegister.symbol_mem_reserved .this)
  | pointerThat => exact .cell (BaseRegister.symbol_mem_reserved .that)
  | static => exact .static small

theorem Address.Form.emitted_indirect {base : String} {offset : Int}
    (form : Form script segment index (.indirect base offset))
    (small : index ≤ maxIndex) :
    Instruction.Emitted script (.load base) ∧
      Instruction.Emitted script (.load (toString offset)) := by
  cases form with
  | based register =>
      exact ⟨.cell register.symbol_mem_reserved, .number small⟩

theorem Address.Form.emitted_literal {symbol : String}
    (form : Form script segment index (.literal symbol))
    (small : index ≤ maxIndex) :
    Instruction.Emitted script (.load symbol) := by
  cases form with
  | constant => exact .number small

theorem Address.Form.emitted_loadData {address : Address}
    (form : Form script segment index address) (small : index ≤ maxIndex) :
    ∀ instruction ∈ Codegen.loadData address, instruction.Emitted script := by
  have computes := @Instruction.Emitted.compute script
  cases address with
  | literal symbol =>
      simp [Codegen.loadData, Codegen.setData, form.emitted_literal small, computes]
  | direct symbol =>
      simp [Codegen.loadData, Codegen.setData, form.emitted_direct small, computes]
  | indirect base offset =>
      obtain ⟨loadsBase, loadsOffset⟩ := form.emitted_indirect small
      simp only [Codegen.loadData, Codegen.setData, Codegen.setAddress,
        List.forall_mem_cons, loadsBase, loadsOffset, computes]
      simp

end LoadedForms

namespace Codegen

/-- Every instruction of a command has one of the forms. -/
theorem Emits.emitted {script : String} {command : Command}
    {instructions : List Instruction}
    (emits : Emits script command instructions)
    (small : ∀ index ∈ command.index?, index ≤ maxIndex) :
    ∀ instruction ∈ instructions, instruction.Emitted script := by
  have stackPointer : Instruction.Emitted script (.load Address.stackPointer) :=
    .cell (by decide)
  have scratch : Instruction.Emitted script (.load Address.scratch) :=
    .cell (by decide)
  have computes := @Instruction.Emitted.compute script
  cases emits with
  | add | sub =>
      simp [combineTop, setMemory, setAddress, setData, stackPointer, computes]
  | push form =>
      rw [List.forall_mem_append]
      refine ⟨form.emitted_loadData (small _ rfl), ?_⟩
      simp [pushData, setMemory, setAddress, stackPointer, computes]
  | popDirect form =>
      have loads := form.emitted_direct (small _ rfl)
      simp [Codegen.popDirect, popData, setMemory, setData, stackPointer, computes,
        loads]
  | popIndirect form =>
      obtain ⟨loadsBase, loadsOffset⟩ := form.emitted_indirect (small _ rfl)
      simp only [Codegen.popIndirect, popData, setMemory, setAddress, setData,
        List.forall_mem_append, List.forall_mem_cons, stackPointer, scratch,
        computes, loadsBase, loadsOffset]
      simp

end Codegen

end StackCompiler
