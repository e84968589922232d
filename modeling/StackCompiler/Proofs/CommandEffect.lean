import StackCompiler.Proofs.BlockEffect
import StackCompiler.Proofs.StackMachine

/-!
# The effect of a command

The code of a command has an effect that can be stated without the code: which
value is moved, which cells are written and in which order, and whether the
symbol table grows.  This file states that effect as a function of the machine
before the command, and shows that running the block of the command has exactly
this effect.  No two of the cells involved are required to be different.
-/

namespace StackCompiler

/-- What a segment and an index refer to. -/
inductive Referent where
  /-- A value without a cell. -/
  | literal (value : Nat)
  | direct (cell : Nat)
  /-- The cell at an offset from a base, which is held in a cell itself. -/
  | indirect (base offset : Nat)
  deriving DecidableEq, Repr

/-- The value of what is referred to. -/
def Referent.value (memory : Memory) : Referent → Nat
  | literal value => value
  | direct cell => memory.read cell
  | indirect base offset => memory.read (memory.target base offset)

namespace SymbolTable

/-- What an index refers to in a segment.  Only the static segment asks the table
for its cells. -/
def referent (table : SymbolTable) (script : String) : Segment → Nat → Referent
  | .locals, index => .indirect 1 index
  | .argument, index => .indirect 2 index
  | .this, index => .indirect 3 index
  | .that, index => .indirect 4 index
  | .temp, index => .direct (5 + index)
  | .pointer, index => .direct (3 + index)
  | .static, index =>
      .direct (table.locate (Address.staticSymbol script index)).1
  | .constant, index => .literal index

/-- The table after a static index of a script was used, if there was one. -/
def use (table : SymbolTable) (script : String) : Option Nat → SymbolTable
  | none => table
  | some index => (table.locate (Address.staticSymbol script index)).2

theorem referent_segment (table : SymbolTable) (script : String)
    (register : BaseRegister) (index : Nat) :
    table.referent script register.segment index = .indirect register.cell index := by
  cases register <;> rfl

theorem Standard.use {table : SymbolTable} (standard : table.Standard)
    (script : String) (static : Option Nat) : (table.use script static).Standard := by
  cases static with
  | none => exact standard
  | some index =>
      intro name cell bound
      exact lookup?_locate_of_bound (standard name cell bound) _

theorem Standard.names_base {table : SymbolTable} (standard : table.Standard)
    (register : BaseRegister) : table.Names register.symbol register.cell table := by
  cases register <;> exact standard.names (by decide +kernel)

end SymbolTable

/-- What a command does to a machine, its registers apart. -/
structure Effect where
  memory : Memory
  /-- The cells that are written, in order. -/
  written : List Nat
  symbols : SymbolTable
  deriving DecidableEq, Repr

/-- The effect of a command of a script on a machine. -/
def Command.effect (script : String) (machine : Machine) (command : Command) :
    Effect :=
  let memory := machine.memory
  let symbols := machine.symbols.use script command.static?
  match command with
  | .add => ⟨memory.combined .plus, [0, memory.secondBelow], symbols⟩
  | .sub => ⟨memory.combined .minus, [0, memory.secondBelow], symbols⟩
  | .push segment index =>
      let referent := machine.symbols.referent script segment index
      ⟨memory.pushed (referent.value memory), [0, memory.top], symbols⟩
  | .pop segment index =>
      match machine.symbols.referent script segment index with
      | .literal _ => ⟨memory, [], symbols⟩
      | .direct cell => ⟨memory.popped cell, [0, cell], symbols⟩
      | .indirect base offset =>
          let target := memory.target base offset
          ⟨(memory.parked target).popped target, [13, 0, target], symbols⟩

section Addresses

variable {script : String} {segment : Segment} {index : Nat}

/-- The symbol of a direct address names the cell that is referred to. -/
theorem Address.Form.names_referent {symbol : String}
    (form : Form script segment index (.direct symbol)) {table : SymbolTable}
    (standard : table.Standard) :
    ∃ cell, table.referent script segment index = .direct cell ∧
      table.Names symbol cell (table.use script (segment.static? index)) := by
  cases form with
  | temp inside =>
      refine ⟨5 + index, rfl, table.names_number ?_⟩
      have small : index < 8 := inside
      simp only [Address.tempBase, maxIndex]
      omega
  | pointerThis => exact ⟨3, rfl, standard.names_base .this⟩
  | pointerThat => exact ⟨4, rfl, standard.names_base .that⟩
  | static => exact ⟨_, rfl, table.names_staticSymbol script index⟩

/-- Loading from an address takes the value of what is referred to into the data
register. -/
theorem Address.Form.executeAll_loadData_referent {address : Address}
    (form : Form script segment index address) (small : index ≤ maxIndex)
    {machine : Machine} (standard : machine.symbols.Standard) :
    ∃ reached, machine.executeAll (Codegen.loadData address) =
      .ok { machine with
        address := reached
        data := (machine.symbols.referent script segment index).value machine.memory
        symbols := machine.symbols.use script (segment.static? index) } := by
  cases address with
  | literal symbol =>
      cases form with
      | constant =>
          have names := machine.symbols.names_number small
          exact ⟨index, Machine.executeAll_loadData_literal names⟩
  | direct symbol =>
      obtain ⟨cell, isReferent, names⟩ := form.names_referent standard
      rw [isReferent]
      exact ⟨cell, Machine.executeAll_loadData_direct names⟩
  | indirect base offset =>
      cases form with
      | based register =>
          have names := standard.names_base register
          rw [SymbolTable.referent_segment, BaseRegister.static?_segment]
          exact ⟨_, Machine.executeAll_loadData_indirect names small⟩

end Addresses

/-- The instructions of a command have the effect of the command. -/
theorem Codegen.Emits.yields_effect {script : String} {command : Command}
    {instructions : List Instruction} (emits : Emits script command instructions)
    (small : ∀ index ∈ command.index?, index ≤ maxIndex) {machine : Machine}
    (standard : machine.symbols.Standard) (low : machine.memory.top < wordSize) :
    let effect := command.effect script machine
    machine.Yields instructions effect.memory effect.symbols effect.written := by
  cases emits with
  | add => exact Machine.yields_combineTop standard .plus
  | sub => exact Machine.yields_combineTop standard .minus
  | @push segment index _ form =>
      obtain ⟨reached, loads⟩ :=
        form.executeAll_loadData_referent (small index rfl) standard
      exact Machine.yields_push loads (standard.use script _) low
  | @popDirect segment index symbol form =>
      obtain ⟨cell, isReferent, names⟩ := form.names_referent standard
      simp only [Command.effect, isReferent]
      exact Machine.yields_popDirect standard names
  | @popIndirect segment index _ _ form =>
      cases form with
      | based register =>
          have names := standard.names_base register
          simp only [Command.effect, Command.static?, SymbolTable.referent_segment,
            BaseRegister.static?_segment]
          exact Machine.yields_popIndirect standard names (small index rfl)

namespace Machine

/-- Whether a machine becomes another while the given cells are written and
recorded, and no others. -/
structure Writes (machine next : Machine) (cells : List Nat) : Prop where
  recorded : next.written = machine.written ++ cells
  unchanged : ∀ address : Int, (∀ cell ∈ cells, address ≠ (cell : Int)) →
    next.memory.read address = machine.memory.read address

theorem Writes.refl (machine : Machine) : machine.Writes machine [] where
  recorded := (List.append_nil _).symm
  unchanged _ _ := rfl

theorem Writes.trans {machine middle next : Machine} {first second : List Nat}
    (before : machine.Writes middle first) (after : middle.Writes next second) :
    machine.Writes next (first ++ second) where
  recorded := by
    rw [after.recorded, before.recorded, List.append_assoc]
  unchanged address outside := by
    rw [List.forall_mem_append] at outside
    rw [after.unchanged address outside.2, before.unchanged address outside.1]

theorem writes_store (machine : Machine) (destination : Destination) (value : Nat) :
    ∃ cells, machine.Writes (machine.store destination value) cells := by
  cases inMemory : destination.memory with
  | false =>
      exact ⟨[], by simp [store, inMemory], by simp [store, inMemory]⟩
  | true =>
      refine ⟨[machine.address], by simp [store, inMemory], ?_⟩
      intro address outside
      have elsewhere : address ≠ machine.address := outside _ (by simp)
      simp only [store, inMemory, if_true]
      exact Memory.read_write_of_ne _ elsewhere value

theorem writes_load {machine next : Machine} {symbol : String}
    (loaded : machine.load symbol = .ok next) : machine.Writes next [] := by
  rw [load] at loaded
  split at loaded
  · split at loaded
    · cases loaded
      exact ⟨(List.append_nil _).symm, fun _ _ => rfl⟩
    · cases loaded
  · cases loaded
    exact ⟨(List.append_nil _).symm, fun _ _ => rfl⟩

/-- A step changes no cell without recording it. -/
theorem writes_step {machine next : Machine} {text : String}
    (stepped : machine.step text = .ok next) : ∃ cells, machine.Writes next cells := by
  rw [step] at stepped
  split at stepped
  · cases stepped
  · rename_i instruction _
    cases instruction with
    | load symbol => exact ⟨[], writes_load stepped⟩
    | compute destination computation =>
        cases stepped
        exact machine.writes_store destination _

/-- A run changes no cell without recording it. -/
theorem writes_run {machine reached : Machine} {lines : List String}
    (ran : machine.run lines = .ok reached) :
    ∃ cells, machine.Writes reached cells := by
  fun_induction run machine lines with
  | case1 machine =>
      cases ran
      exact ⟨[], .refl _⟩
  | case2 machine line rest skipped ih => exact ih ran
  | case3 => cases ran
  | case4 machine line rest text found next stepped ih =>
      obtain ⟨first, before⟩ := writes_step stepped
      obtain ⟨second, after⟩ := ih ran
      exact ⟨first ++ second, before.trans after⟩

end Machine

/-- A memory of words is one whose written cells hold words. -/
theorem Memory.read_lt_of_cells {memory : Memory}
    (words : ∀ cell ∈ memory.cells, cell.2 < wordSize) (address : Int) :
    memory.read address < wordSize := by
  rw [read]
  cases found : memory.cells.lookup address with
  | none => decide
  | some value =>
      obtain ⟨front, back, split, _⟩ := List.lookup_eq_some_iff.mp found
      exact words (address, value) (by simp [split])

/-- Running the block of a command has the effect of the command. -/
theorem Codegen.exists_run_block {script : String} {policy : StaticPolicy}
    {command : Command} {block : Block} {machine : Machine}
    (generated : Codegen.block script policy command = .ok block)
    (small : ∀ index ∈ command.index?, index ≤ maxIndex)
    (standard : machine.symbols.Standard) (low : machine.memory.top < wordSize) :
    let effect := command.effect script machine
    ∃ address data, machine.run block.lines =
      .ok ⟨effect.memory, address, data, effect.symbols,
        machine.written ++ effect.written⟩ := by
  obtain ⟨comment, instructions, rfl, emits⟩ := emits_of_block generated
  obtain ⟨address, data, executed⟩ := emits.yields_effect small standard low
  refine ⟨address, data, Machine.run_block ?_ executed comment⟩
  intro instruction member
  exact (emits.emitted small instruction member).isTrim

/-- The block of a command has exactly the effect of the command, whatever the
stack pointer and the base registers are and however the cells coincide.  The
cells of the effect are the ones recorded as written, and every other cell keeps
its value. -/
theorem block_has_exact_effect (script : String) (policy : StaticPolicy)
    (command : Command) (block : Block) (machine : Machine)
    (small : ∀ index ∈ command.index?, index ≤ 32767)
    (generated : Codegen.block script policy command = .ok block)
    (sized : machine.WordSized) (standard : machine.symbols.Standard) :
    let effect := command.effect script machine
    ∃ reached, machine.run block.lines = .ok reached ∧
      reached.memory = effect.memory ∧
      reached.written = machine.written ++ effect.written ∧
      reached.symbols = effect.symbols ∧
      ∀ address : Int, (∀ cell ∈ effect.written, address ≠ (cell : Int)) →
        reached.memory.read address = machine.memory.read address := by
  intro effect
  obtain ⟨address, data, ran⟩ :=
    Codegen.exists_run_block generated small standard (sized.memory 0)
  obtain ⟨cells, writes⟩ := Machine.writes_run ran
  have sameCells : effect.written = cells :=
    List.append_cancel_left writes.recorded
  refine ⟨_, ran, rfl, rfl, rfl, ?_⟩
  rw [sameCells]
  exact writes.unchanged

/-- A pop through a base register in which everything coincides: the popped value
lies in the scratch cell, and the target is the stack pointer itself. -/
theorem block_has_exact_effect_coinciding :
    let machine : Machine :=
      ⟨(Memory.empty.write 0 14).write 1 65534, 7, 9, .initial, [5]⟩
    ∃ block reached,
      Codegen.block "Main" .reject (.pop .locals 2) = .ok block ∧
      machine.WordSized ∧ machine.symbols.Standard ∧
      machine.run block.lines = .ok reached ∧
      reached.memory.cells = [(0, 0), (1, 65534), (13, 0)] ∧
      reached.written = [5, 13, 0, 0] ∧ reached.symbols = .initial := by
  intro machine
  have sized : machine.WordSized :=
    ⟨by decide, by decide, Memory.read_lt_of_cells (by decide)⟩
  have standard : machine.symbols.Standard := fun _ _ bound => bound
  obtain ⟨reached, ran, memory, written, symbols, _⟩ :=
    block_has_exact_effect "Main" .reject (.pop .locals 2) _ machine
      (by decide) rfl sized standard
  refine ⟨_, reached, rfl, sized, standard, ran, ?_, ?_, symbols⟩
  · rw [memory]
    decide +kernel
  · rw [written]
    decide +kernel

end StackCompiler
