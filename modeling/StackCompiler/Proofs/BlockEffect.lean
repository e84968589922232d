import StackCompiler.Proofs.Execution

/-!
# The effect of generated code on memory

Each kind of block has one effect on memory, stated here as a sequence of
writes.  The equations hold for every state whose predefined symbols stand for
their cells: the stack pointer may be anywhere, and the cells that a block
touches may coincide.
-/

namespace StackCompiler

theorem toWord_lt (value : Int) : toWord value < wordSize := by
  unfold toWord wordSize
  omega

theorem toWord_up_down {word : Nat} (small : word < wordSize) :
    toWord ((toWord ((word : Int) + 1) : Int) - 1) = word := by
  unfold toWord wordSize at *
  omega

theorem toWord_down_up (value : Int) :
    toWord ((toWord (value - 1) : Int) + 1) = toWord value := by
  unfold toWord wordSize
  omega

theorem toWord_toWord (value : Int) : toWord (toWord value) = toWord value := by
  unfold toWord wordSize
  omega

namespace Memory

theorem read_write (memory : Memory) (address other : Int) (value : Nat) :
    (memory.write address value).read other =
      if other = address then value else memory.read other := by
  split
  next same =>
    rw [same]
    exact memory.read_write_same address value
  next different => exact memory.read_write_of_ne different value

/-- The cell that the stack pointer points to: the first free one. -/
def top (memory : Memory) : Nat :=
  memory.read 0

/-- The memory after a value was pushed: the pointer is moved up, then the value
is written to the cell it pointed to. -/
def pushed (memory : Memory) (value : Nat) : Memory :=
  (memory.write 0 (toWord (memory.top + 1))).write memory.top value

/-- The cell below the stack pointer. -/
def below (memory : Memory) : Nat :=
  toWord ((memory.top : Int) - 1)

/-- The memory after the stack pointer was moved down. -/
def lowered (memory : Memory) : Memory :=
  memory.write 0 memory.below

/-- The memory after a value was popped into a cell. -/
def popped (memory : Memory) (cell : Nat) : Memory :=
  memory.lowered.write cell (memory.lowered.read memory.below)

/-- The cell two below the stack pointer. -/
def secondBelow (memory : Memory) : Nat :=
  toWord ((memory.below : Int) - 1)

/-- The memory after the two topmost values were combined in place. -/
def combined (memory : Memory) (operator : Operator) : Memory :=
  memory.lowered.write memory.secondBelow
    (Machine.combine (memory.lowered.read memory.secondBelow)
      (memory.lowered.read memory.below) operator)

/-- The memory after a target was put into the scratch cell. -/
def parked (memory : Memory) (target : Nat) : Memory :=
  memory.write 13 target

@[simp]
theorem read_lowered_parked (memory : Memory) (target : Nat) :
    (memory.parked target).lowered.read 13 = target := by
  rw [lowered, read_write_of_ne _ (by decide), parked, read_write_same]

/-- The cell at an offset from a base that is held in a cell. -/
def target (memory : Memory) (base offset : Nat) : Nat :=
  toWord ((offset : Int) + memory.read base)

end Memory

namespace Machine

/-- Whether registers and memory hold machine words only. -/
structure WordSized (machine : Machine) : Prop where
  address : machine.address < wordSize
  data : machine.data < wordSize
  memory : ∀ address, machine.memory.read address < wordSize

open Codegen

/-- Whether instructions execute without fault and end with the given memory,
symbols and further written cells. -/
def Yields (machine : Machine) (instructions : List Instruction)
    (memory : Memory) (symbols : SymbolTable) (written : List Nat) : Prop :=
  ∃ address data, machine.executeAll instructions =
    .ok ⟨memory, address, data, symbols, machine.written ++ written⟩

theorem Yields.exists_reached {machine : Machine} {instructions : List Instruction}
    {memory : Memory} {symbols : SymbolTable} {written : List Nat}
    (yields : machine.Yields instructions memory symbols written) :
    ∃ reached, machine.executeAll instructions = .ok reached ∧
      reached.memory = memory ∧ reached.symbols = symbols := by
  obtain ⟨address, data, executed⟩ := yields
  exact ⟨_, executed, rfl, rfl⟩

@[simp]
theorem executeAll_setMemory (machine : Machine) (computation : Computation)
    (rest : List Instruction) :
    machine.executeAll (setMemory computation :: rest) =
      executeAll { machine with
        memory := machine.memory.write machine.address
          (machine.computeValue computation)
        written := machine.written ++ [machine.address] } rest :=
  rfl

@[simp]
theorem executeAll_setAddress (machine : Machine) (computation : Computation)
    (rest : List Instruction) :
    machine.executeAll (setAddress computation :: rest) =
      executeAll { machine with address := machine.computeValue computation } rest :=
  rfl

@[simp]
theorem executeAll_setData (machine : Machine) (computation : Computation)
    (rest : List Instruction) :
    machine.executeAll (setData computation :: rest) =
      executeAll { machine with data := machine.computeValue computation } rest :=
  rfl

@[simp]
theorem computeValue_copy (machine : Machine) (operand : Operand) :
    machine.computeValue (.copy operand) = machine.operandValue operand :=
  rfl

@[simp]
theorem computeValue_combine (machine : Machine) (left right : Operand)
    (operator : Operator) :
    machine.computeValue (.combine left operator right) =
      combine (machine.operandValue left) (machine.operandValue right) operator :=
  rfl

theorem executeAll_pushData {machine : Machine}
    (standard : machine.symbols.Standard)
    (small : machine.memory.top < wordSize) :
    machine.executeAll pushData =
      .ok { machine with
        memory := machine.memory.pushed machine.data
        address := machine.memory.top
        written := machine.written ++ [0, machine.memory.top] } := by
  have freed : toWord ((toWord ((machine.memory.read 0 : Int) + 1) : Int) - 1) =
      machine.memory.read 0 := toWord_up_down small
  rw [pushData, executeAll_load standard.names_stackPointer]
  simp [operandValue, combine, Memory.pushed, Memory.top, freed]

theorem executeAll_popData (machine : Machine)
    (standard : machine.symbols.Standard) :
    machine.executeAll popData =
      .ok { machine with
        memory := machine.memory.lowered
        address := machine.memory.below
        data := machine.memory.lowered.read machine.memory.below
        written := machine.written ++ [0] } := by
  rw [popData, executeAll_load standard.names_stackPointer]
  simp [store, operandValue, combine, Memory.lowered, Memory.below, Memory.top]

theorem yields_combineTop {machine : Machine} (standard : machine.symbols.Standard)
    (operator : Operator) :
    machine.Yields (combineTop operator) (machine.memory.combined operator)
      machine.symbols [0, machine.memory.secondBelow] := by
  have up : toWord ((machine.memory.secondBelow : Int) + 1) = machine.memory.below := by
    rw [Memory.secondBelow, toWord_down_up, Memory.below, toWord_toWord]
  let lowered : Machine := { machine with
    memory := machine.memory.lowered
    address := 0
    written := machine.written ++ [0] }
  let left := machine.memory.lowered.read machine.memory.secondBelow
  let right := machine.memory.lowered.read machine.memory.below
  -- The address register goes down to the left operand, up to the right one,
  -- and down again to where the result belongs.
  have executed : machine.executeAll (combineTop operator) = .ok { lowered with
      memory := machine.memory.combined operator
      address := machine.memory.secondBelow
      data := combine left right operator
      written := machine.written ++ [0, machine.memory.secondBelow] } := by
    calc
      machine.executeAll (combineTop operator) =
          lowered.executeAll
            [setAddress (.combine .memory .minus .one),
              setData (.copy .memory),
              setAddress (.combine .address .plus .one),
              setData (.combine .data operator .memory),
              setAddress (.combine .address .minus .one),
              setMemory (.copy .data)] := by
        rw [combineTop, executeAll_load standard.names_stackPointer]
        simp only [executeAll_setMemory, computeValue_combine, operandValue,
          combine, lowered, Memory.lowered, Memory.below, Memory.top]
        simp
      _ = executeAll { lowered with
            address := machine.memory.secondBelow
            data := left }
            [setAddress (.combine .address .plus .one),
              setData (.combine .data operator .memory),
              setAddress (.combine .address .minus .one),
              setMemory (.copy .data)] := by
        simp [lowered, left, operandValue, combine, Memory.lowered,
          Memory.secondBelow]
      _ = executeAll { lowered with
            address := machine.memory.below
            data := combine left right operator }
            [setAddress (.combine .address .minus .one),
              setMemory (.copy .data)] := by
        simp [lowered, right, operandValue, combine, up]
      _ = _ := by
        simp [lowered, left, right, operandValue, combine, Memory.combined,
          Memory.secondBelow]
  exact ⟨_, _, executed⟩

theorem yields_push {machine : Machine} {code : List Instruction}
    {address value : Nat} {after : SymbolTable}
    (loads : machine.executeAll code =
      .ok { machine with address := address, data := value, symbols := after })
    (standard : after.Standard) (small : machine.memory.top < wordSize) :
    machine.Yields (code ++ pushData) (machine.memory.pushed value) after
      [0, machine.memory.top] := by
  have pushes := (executeAll_append loads pushData).trans
    (executeAll_pushData standard small)
  exact ⟨_, _, pushes⟩

theorem executeAll_loadData_literal {machine : Machine} {symbol : String}
    {value : Nat} {after : SymbolTable}
    (names : machine.symbols.Names symbol value after) :
    machine.executeAll (loadData (.literal symbol)) =
      .ok { machine with address := value, data := value, symbols := after } := by
  rw [loadData, executeAll_load names]
  simp [operandValue]

theorem executeAll_loadData_direct {machine : Machine} {symbol : String}
    {cell : Nat} {after : SymbolTable}
    (names : machine.symbols.Names symbol cell after) :
    machine.executeAll (loadData (.direct symbol)) =
      .ok { machine with
        address := cell
        data := machine.memory.read cell
        symbols := after } := by
  rw [loadData, executeAll_load names]
  simp [operandValue]

theorem executeAll_loadData_indirect {machine : Machine} {base : String}
    {cell offset : Nat} (names : machine.symbols.Names base cell machine.symbols)
    (small : offset ≤ maxIndex) :
    machine.executeAll (loadData (.indirect base offset)) =
      .ok { machine with
        address := machine.memory.target cell offset
        data := machine.memory.read (machine.memory.target cell offset) } := by
  have numeral : machine.symbols.Names (toString (offset : Int)) offset
      machine.symbols := machine.symbols.names_number small
  calc
    machine.executeAll (loadData (.indirect base offset)) =
        executeAll { machine with
          address := cell
          data := machine.memory.read cell }
          [.load (toString (offset : Int)),
            setAddress (.combine .address .plus .data),
            setData (.copy .memory)] := by
      rw [loadData, executeAll_load names]
      rfl
    _ = executeAll { machine with
          address := offset
          data := machine.memory.read cell }
          [setAddress (.combine .address .plus .data),
            setData (.copy .memory)] := executeAll_load numeral
    _ = _ := by
      simp [operandValue, combine, Memory.target]

theorem yields_popDirect {machine : Machine} {symbol : String} {cell : Nat}
    {after : SymbolTable} (standard : machine.symbols.Standard)
    (names : machine.symbols.Names symbol cell after) :
    machine.Yields (popDirect symbol) (machine.memory.popped cell) after
      [0, cell] := by
  have executed : machine.executeAll (popDirect symbol) =
      .ok { machine with
        memory := machine.memory.popped cell
        address := cell
        data := machine.memory.lowered.read machine.memory.below
        symbols := after
        written := machine.written ++ [0, cell] } := by
    calc
      machine.executeAll (popDirect symbol) =
          executeAll { machine with
            memory := machine.memory.lowered
            address := machine.memory.below
            data := machine.memory.lowered.read machine.memory.below
            written := machine.written ++ [0] }
            [.load symbol, setMemory (.copy .data)] :=
        executeAll_append (executeAll_popData machine standard) _
      _ = executeAll { machine with
            memory := machine.memory.lowered
            address := cell
            data := machine.memory.lowered.read machine.memory.below
            symbols := after
            written := machine.written ++ [0] }
            [setMemory (.copy .data)] := executeAll_load names
      _ = _ := by
        simp [operandValue, Memory.popped]
  exact ⟨_, _, executed⟩

/-- The first half of popping through a base pointer puts the target into the
scratch cell. -/
theorem executeAll_park {machine : Machine} {base : String} {cell offset : Nat}
    (standard : machine.symbols.Standard)
    (names : machine.symbols.Names base cell machine.symbols)
    (small : offset ≤ maxIndex) :
    machine.executeAll
        [.load base, setData (.copy .memory), .load (toString (offset : Int)),
          setData (.combine .address .plus .data), .load Address.scratch,
          setMemory (.copy .data)] =
      .ok { machine with
        memory := machine.memory.parked (machine.memory.target cell offset)
        address := 13
        data := machine.memory.target cell offset
        written := machine.written ++ [13] } := by
  have numeral : machine.symbols.Names (toString (offset : Int)) offset
      machine.symbols := machine.symbols.names_number small
  calc
    machine.executeAll _ =
        executeAll { machine with
          address := cell
          data := machine.memory.read cell }
          [.load (toString (offset : Int)),
            setData (.combine .address .plus .data), .load Address.scratch,
            setMemory (.copy .data)] := by
      rw [executeAll_load names]
      rfl
    _ = executeAll { machine with
          address := offset
          data := machine.memory.target cell offset }
          [.load Address.scratch, setMemory (.copy .data)] := by
      rw [executeAll_load numeral]
      simp [operandValue, combine, Memory.target]
    _ = executeAll { machine with
          address := 13
          data := machine.memory.target cell offset }
          [setMemory (.copy .data)] := executeAll_load standard.names_scratch
    _ = _ := by
      simp [operandValue, Memory.parked]

/-- Popping through a base pointer.  The target is computed before the stack
pointer moves, and read back from the scratch cell afterwards. -/
theorem yields_popIndirect {machine : Machine} {base : String}
    {cell offset : Nat} (standard : machine.symbols.Standard)
    (names : machine.symbols.Names base cell machine.symbols)
    (small : offset ≤ maxIndex) :
    let target := machine.memory.target cell offset
    machine.Yields (popIndirect base offset)
      ((machine.memory.parked target).popped target) machine.symbols
      [13, 0, target] := by
  intro target
  let parked : Machine := { machine with
    memory := machine.memory.parked target
    address := 13
    data := target
    written := machine.written ++ [13] }
  have executed : machine.executeAll (popIndirect base offset) =
      .ok { parked with
        memory := parked.memory.popped target
        address := target
        data := parked.memory.lowered.read parked.memory.below
        written := machine.written ++ [13, 0, target] } := by
    calc
      machine.executeAll (popIndirect base offset) =
          parked.executeAll (popData ++
            [.load Address.scratch, setAddress (.copy .memory),
              setMemory (.copy .data)]) := by
        rw [popIndirect, List.append_assoc]
        exact executeAll_append (executeAll_park standard names small) _
      _ = executeAll { parked with
            memory := parked.memory.lowered
            address := parked.memory.below
            data := parked.memory.lowered.read parked.memory.below
            written := parked.written ++ [0] }
            [.load Address.scratch, setAddress (.copy .memory),
              setMemory (.copy .data)] :=
        executeAll_append (executeAll_popData parked standard) _
      _ = executeAll { parked with
            memory := parked.memory.lowered
            address := 13
            data := parked.memory.lowered.read parked.memory.below
            written := parked.written ++ [0] }
            [setAddress (.copy .memory), setMemory (.copy .data)] :=
        executeAll_load standard.names_scratch
      _ = _ := by
        simp [operandValue, parked, Memory.popped]
  exact ⟨_, _, executed⟩

end Machine

end StackCompiler
