import StackCompiler.Proofs.CommandEffect
import StackCompiler.Proofs.Verdict

/-!
# Pushing a cell and popping it back

A cell that is pushed and popped back keeps its value, and so does every other
cell but the stack slot in between and, for the segments with a base register,
the scratch cell.  The address of such a cell is computed twice, before and
after memory has changed.  The computations agree because the stack lies above
the registers; nothing else is assumed of where the cell is.
-/

namespace StackCompiler

namespace Memory

theorem below_parked (memory : Memory) (target : Nat) :
    (memory.parked target).below = memory.below := by
  rw [below, below, top, parked, read_write_of_ne _ (by decide), top]

theorem read_lowered_of_parked (memory : Memory) (target : Nat) (address : Int) :
    (memory.parked target).lowered.read address =
      if address = 13 then target else memory.lowered.read address := by
  rw [lowered, lowered, below_parked, parked, read_write, read_write, read_write]
  by_cases isPointer : address = 0
  · rw [if_pos isPointer, if_pos isPointer, if_neg (by omega)]
  · rw [if_neg isPointer, if_neg isPointer]

section Stacked

variable {memory : Memory} (positive : 0 < memory.top) (low : memory.top < wordSize)

include positive

theorem top_pushed (value : Nat) :
    (memory.pushed value).top = toWord ((memory.top : Int) + 1) := by
  have apart : (0 : Int) ≠ memory.top := by omega
  rw [top, pushed, read_write_of_ne _ apart, read_write_same]

include low

theorem below_pushed (value : Nat) : (memory.pushed value).below = memory.top := by
  rw [below, top_pushed positive, toWord_up_down low]

/-- Moving the stack pointer down again undoes a push, but for the stack slot. -/
theorem read_lowered_pushed (value : Nat) (address : Int) :
    (memory.pushed value).lowered.read address =
      if address = memory.top then value else memory.read address := by
  rw [lowered, below_pushed positive low, pushed, read_write, read_write, read_write]
  by_cases isPointer : address = 0
  · rw [if_pos isPointer, if_neg (by omega), isPointer]
    rfl
  · rw [if_neg isPointer, if_neg isPointer]

/-- A pushed value that is popped into a cell is in that cell and in the stack
slot. -/
theorem read_popped_pushed (value cell : Nat) (address : Int) :
    ((memory.pushed value).popped cell).read address =
      if address = cell then value
      else if address = memory.top then value
      else memory.read address := by
  have slot : (memory.pushed value).lowered.read (memory.pushed value).below = value := by
    rw [below_pushed positive low, read_lowered_pushed positive low, if_pos rfl]
  rw [popped, slot, read_write, read_lowered_pushed positive low]

/-- The same through the scratch cell, which keeps the target unless it is the
target itself. -/
theorem read_popped_parked_pushed (clear : memory.top ≠ 13) (value target : Nat)
    (address : Int) :
    (((memory.pushed value).parked target).popped target).read address =
      if address = target then value
      else if address = 13 then target
      else if address = memory.top then value
      else memory.read address := by
  have slot : ((memory.pushed value).parked target).lowered.read
      ((memory.pushed value).parked target).below = value := by
    rw [below_parked, below_pushed positive low, read_lowered_of_parked,
      if_neg (by omega), read_lowered_pushed positive low, if_pos rfl]
  rw [popped, slot, read_write, read_lowered_of_parked,
    read_lowered_pushed positive low]

end Stacked

/-- A push above the registers leaves the cells that they lead to. -/
theorem target_pushed {memory : Memory} (high : 16 ≤ memory.top) (value : Nat)
    (register : BaseRegister) (offset : Nat) :
    (memory.pushed value).target register.cell offset =
      memory.target register.cell offset := by
  have isRegister : 0 < register.cell ∧ register.cell < 16 := by
    cases register <;> decide
  have kept : (memory.pushed value).read register.cell = memory.read register.cell := by
    rw [pushed, read_write_of_ne _ (by omega), read_write_of_ne _ (by omega)]
  rw [target, target, kept]

end Memory

/-- A symbol that was used is found where it was found first. -/
theorem SymbolTable.referent_use (table : SymbolTable) (script : String)
    (segment : Segment) (index : Nat) :
    (table.use script (segment.static? index)).referent script segment index =
      table.referent script segment index := by
  cases segment with
  | static =>
      have bound := table.lookup?_locate (Address.staticSymbol script index)
      simp only [Segment.static?, use, referent, locate_of_bound bound]
  | locals | argument | this | that | temp | constant | pointer => rfl

/-- A segment with cells either starts at a base register or names its cells. -/
theorem SymbolTable.referent_cases (table : SymbolTable) (script : String)
    {segment : Segment} (notConstant : segment ≠ .constant) (index : Nat) :
    (∃ register : BaseRegister, segment = register.segment) ∨
      ∃ cell, table.referent script segment index = .direct cell := by
  cases segment with
  | constant => exact absurd rfl notConstant
  | locals => exact Or.inl ⟨.locals, rfl⟩
  | argument => exact Or.inl ⟨.argument, rfl⟩
  | this => exact Or.inl ⟨.this, rfl⟩
  | that => exact Or.inl ⟨.that, rfl⟩
  | temp | pointer | static => exact Or.inr ⟨_, rfl⟩

/-- An accepted cell can be pushed and popped. -/
theorem exists_blocks_of_resolve {script : String} {segment : Segment} {index : Nat}
    {address : Address} (notConstant : segment ≠ .constant)
    (accepted : Address.resolve script .symbols (some segment) index = .ok address) :
    ∃ pushBlock popBlock,
      Codegen.block script .symbols (.push segment index) = .ok pushBlock ∧
      Codegen.block script .symbols (.pop segment index) = .ok popBlock := by
  have found := Address.ofSegment_of_resolve accepted
  obtain ⟨popBlock, popped⟩ :=
    Codegen.exists_pop_eq_ok notConstant (Address.form_of_ofSegment found)
  refine ⟨Codegen.push segment address, popBlock, ?_, ?_⟩
  · change (Address.ofSegment script .symbols segment index).map _ = _
    rw [found]
    rfl
  · change Codegen.memoryAccess script .symbols (.pop segment index) = _
    rw [Codegen.memoryAccess_pop script .symbols notConstant, found]
    exact popped

section Restored

variable {script : String} {segment : Segment} {index : Nat} {machine middle : Machine}

/-- Running the two blocks of a cell is pushing its value and then popping from
the machine in between, which finds the cell where it was. -/
theorem exists_run_push_pop {pushBlock popBlock : Block} (small : index ≤ maxIndex)
    (pushes : Codegen.block script .symbols (.push segment index) = .ok pushBlock)
    (pops : Codegen.block script .symbols (.pop segment index) = .ok popBlock)
    (standard : machine.symbols.Standard) (positive : 0 < machine.memory.top)
    (low : machine.memory.top < wordSize) :
    let referent := machine.symbols.referent script segment index
    ∃ middle reached, machine.run (pushBlock.lines ++ popBlock.lines) = .ok reached ∧
      middle.memory = machine.memory.pushed (referent.value machine.memory) ∧
      middle.symbols.referent script segment index = referent ∧
      reached.memory = ((Command.pop segment index).effect script middle).memory := by
  intro referent
  have indexSmall : ∀ other ∈ (Command.push segment index).index?, other ≤ maxIndex := by
    rintro other ⟨⟩
    exact small
  obtain ⟨address, data, pushRan⟩ :=
    Codegen.exists_run_block pushes indexSmall standard low
  let middle : Machine :=
    ⟨machine.memory.pushed (referent.value machine.memory), address, data,
      machine.symbols.use script (segment.static? index),
      machine.written ++ [0, machine.memory.top]⟩
  have middleLow : middle.memory.top < wordSize := by
    rw [Memory.top_pushed positive]
    exact toWord_lt _
  have middleStandard : middle.symbols.Standard := standard.use script _
  obtain ⟨lastAddress, lastData, popRan⟩ :=
    Codegen.exists_run_block pops indexSmall middleStandard middleLow
  refine ⟨middle, _, (Machine.run_append pushRan popBlock.lines).trans popRan, rfl, ?_, rfl⟩
  exact machine.symbols.referent_use script segment index

/-- A cell that is reached from a base register is popped back through the
scratch cell. -/
theorem read_pop_of_based (script : String) (high : 16 ≤ machine.memory.top)
    (low : machine.memory.top < wordSize) (register : BaseRegister)
    (pushed : middle.memory = machine.memory.pushed
      (machine.memory.read (machine.memory.target register.cell index)))
    (address : Int) :
    let target := machine.memory.target register.cell index
    ((Command.pop register.segment index).effect script middle).memory.read address =
      if address = target then machine.memory.read target
      else if address = 13 then target
      else if address = machine.memory.top then machine.memory.read target
      else machine.memory.read address := by
  have sameTarget : middle.memory.target register.cell index =
      machine.memory.target register.cell index := by
    rw [pushed, Memory.target_pushed high]
  simp only [Command.effect, SymbolTable.referent_segment, sameTarget]
  rw [pushed, Memory.read_popped_parked_pushed (by omega) low (by omega)]

/-- A named cell is popped back as it was pushed. -/
theorem read_pop_of_direct (positive : 0 < machine.memory.top)
    (low : machine.memory.top < wordSize) {cell : Nat}
    (named : middle.symbols.referent script segment index = .direct cell)
    (pushed : middle.memory = machine.memory.pushed (machine.memory.read cell))
    (address : Int) :
    ((Command.pop segment index).effect script middle).memory.read address =
      if address = cell then machine.memory.read cell
      else if address = machine.memory.top then machine.memory.read cell
      else machine.memory.read address := by
  simp only [Command.effect, named]
  rw [pushed, Memory.read_popped_pushed positive low]

end Restored

/-- Pushing a cell and popping it back leaves memory as it was.  Only the stack
slot keeps the value, and only the segments with a base register leave their
target in the scratch cell, unless that cell is the target.  The cell itself may
be the stack pointer, a base register, the scratch cell or the stack slot. -/
theorem push_pop_restores_memory (script : String) (segment : Segment) (index : Nat)
    (address : Address) (machine : Machine) (notConstant : segment ≠ .constant)
    (small : index ≤ 32767)
    (accepted : Address.resolve script .symbols (some segment) index = .ok address)
    (sized : machine.WordSized) (standard : machine.symbols.Standard)
    (high : 16 ≤ machine.memory.top) :
    ∃ pushBlock popBlock reached,
      Codegen.block script .symbols (.push segment index) = .ok pushBlock ∧
      Codegen.block script .symbols (.pop segment index) = .ok popBlock ∧
      machine.run (pushBlock.lines ++ popBlock.lines) = .ok reached ∧
      reached.memory.read machine.memory.top =
        (machine.symbols.referent script segment index).value machine.memory ∧
      ∀ other : Int, other ≠ machine.memory.top →
        (∀ register : BaseRegister, segment = register.segment → other = 13 →
          machine.memory.target register.cell index = 13) →
        reached.memory.read other = machine.memory.read other := by
  have low : machine.memory.top < wordSize := sized.memory 0
  have positive : 0 < machine.memory.top := by omega
  obtain ⟨pushBlock, popBlock, pushes, pops⟩ := exists_blocks_of_resolve notConstant accepted
  obtain ⟨middle, reached, ran, pushed, found, memory⟩ :=
    exists_run_push_pop small pushes pops standard positive low
  refine ⟨pushBlock, popBlock, reached, pushes, pops, ran, ?_⟩
  rw [memory]
  rcases machine.symbols.referent_cases script notConstant index with
    ⟨register, rfl⟩ | ⟨cell, named⟩
  · rw [SymbolTable.referent_segment] at pushed ⊢
    have read := read_pop_of_based script high low register pushed
    constructor
    · rw [read _, if_neg (by omega : (machine.memory.top : Int) ≠ 13), if_pos rfl]
      exact ite_self _
    · intro other apart spared
      rw [read other, if_neg apart]
      split
      next isTarget => rw [isTarget]
      next notTarget =>
        apply if_neg
        intro isScratch
        exact notTarget (by rw [spared register rfl isScratch, isScratch]; rfl)
  · rw [named] at pushed found ⊢
    have read := read_pop_of_direct positive low found pushed
    constructor
    · rw [read, if_pos rfl]
      exact ite_self _
    · intro other apart _
      rw [read, if_neg apart]
      split
      next isCell => rw [isCell]
      next => rfl

/-- The stack pointer is at its last value, and the cell that is pushed and popped
back is the stack pointer itself. -/
theorem push_pop_restores_memory_pointer :
    let memory := ((Memory.empty.write 0 65535).write 3 65533).write 13 7
    let machine : Machine := ⟨memory, 1, 2, .initial, []⟩
    ∃ pushBlock popBlock reached,
      Codegen.block "Main" .symbols (.push .this 3) = .ok pushBlock ∧
      Codegen.block "Main" .symbols (.pop .this 3) = .ok popBlock ∧
      machine.WordSized ∧ machine.symbols.Standard ∧
      machine.run (pushBlock.lines ++ popBlock.lines) = .ok reached ∧
      reached.memory.read 65535 = 65535 ∧
      ∀ other : Int, other ≠ 65535 → other ≠ 13 →
        reached.memory.read other = memory.read other := by
  intro memory machine
  have sized : machine.WordSized :=
    ⟨by decide, by decide, Memory.read_lt_of_cells (by decide)⟩
  have standard : machine.symbols.Standard := fun _ _ bound => bound
  obtain ⟨pushBlock, popBlock, reached, pushes, pops, ran, slot, others⟩ :=
    push_pop_restores_memory "Main" .this 3 _ machine (by decide) (by decide) rfl
      sized standard (by decide)
  have top : machine.memory.top = 65535 := by decide
  rw [top] at slot others
  refine ⟨pushBlock, popBlock, reached, pushes, pops, sized, standard, ran,
    slot.trans (by decide +kernel), ?_⟩
  intro other notSlot notScratch
  exact others other notSlot fun _ _ isScratch => absurd isScratch notScratch

end StackCompiler
