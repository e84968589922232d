import StackCompiler.Proofs.PrintedCode
import StackCompiler.Proofs.StaticTable

/-!
# Executing instructions in sequence

Running the lines of a block is executing its instructions one after the other.
This file also says what a loaded text stands for: the cell that ends up in the
address register and the table after it, which may have grown by one symbol.
-/

namespace StackCompiler

namespace Machine

/-- Execute instructions one after the other, up to the first fault. -/
def executeAll (machine : Machine) (instructions : List Instruction) :
    Except MachineFault Machine :=
  instructions.foldlM execute machine

@[simp]
theorem executeAll_nil (machine : Machine) : machine.executeAll [] = .ok machine :=
  rfl

theorem executeAll_cons {machine next : Machine} {instruction : Instruction}
    (executed : machine.execute instruction = .ok next) (rest : List Instruction) :
    machine.executeAll (instruction :: rest) = next.executeAll rest := by
  rw [executeAll, List.foldlM_cons, executed]
  rfl

@[simp]
theorem executeAll_compute (machine : Machine) (destination : Destination)
    (computation : Computation) (rest : List Instruction) :
    machine.executeAll (.compute destination computation :: rest) =
      (machine.store destination (machine.computeValue computation)).executeAll
        rest :=
  executeAll_cons rfl rest

theorem executeAll_append {machine middle : Machine} {first : List Instruction}
    (executed : machine.executeAll first = .ok middle)
    (second : List Instruction) :
    machine.executeAll (first ++ second) = middle.executeAll second := by
  rw [executeAll] at executed
  rw [executeAll, List.foldlM_append, executed]
  rfl

theorem run_skip {line : String} (skipped : instructionText? line = none)
    (machine : Machine) (rest : List String) :
    machine.run (line :: rest) = machine.run rest := by
  rw [run, skipped]

theorem run_step {machine next : Machine} {line text : String}
    (found : instructionText? line = some text)
    (stepped : machine.step text = .ok next) (rest : List String) :
    machine.run (line :: rest) = next.run rest := by
  rw [run, found]
  simp only [stepped]

/-- A run of two programs is the run of one after the other. -/
theorem run_append {machine middle : Machine} {first : List String}
    (ran : machine.run first = .ok middle) (second : List String) :
    machine.run (first ++ second) = middle.run second := by
  fun_induction run machine first with
  | case1 machine =>
      cases ran
      rfl
  | case2 machine line rest skipped ih =>
      rw [List.cons_append, run_skip skipped]
      exact ih ran
  | case3 => cases ran
  | case4 machine line rest text found next stepped ih =>
      rw [List.cons_append, run_step found stepped]
      exact ih ran

theorem run_comment (machine : Machine) (comment : String) (rest : List String) :
    machine.run (("// " ++ comment) :: rest) = machine.run rest :=
  run_skip (instructionText?_comment comment) machine rest

theorem run_render {machine next : Machine} {instruction : Instruction}
    (tight : instruction.IsTrim) (executed : machine.execute instruction = .ok next)
    (rest : List String) :
    machine.run (instruction.render :: rest) = next.run rest := by
  apply run_step (instructionText?_render tight)
  rw [step, Instruction.parse_render]
  exact executed

theorem run_map_render {machine reached : Machine}
    {instructions : List Instruction}
    (tight : ∀ instruction ∈ instructions, instruction.IsTrim)
    (executed : machine.executeAll instructions = .ok reached) :
    machine.run (instructions.map Instruction.render) = .ok reached := by
  induction instructions generalizing machine with
  | nil =>
      cases executed
      rfl
  | cons instruction rest ih =>
      cases first : machine.execute instruction with
      | error fault =>
          rw [executeAll, List.foldlM_cons, first] at executed
          cases executed
      | ok next =>
          rw [executeAll_cons first] at executed
          rw [List.map_cons, run_render (tight instruction (by simp)) first]
          exact ih (fun other member => tight other (by simp [member])) executed

/-- Running a block is executing its instructions. -/
theorem run_block {machine reached : Machine} {instructions : List Instruction}
    (tight : ∀ instruction ∈ instructions, instruction.IsTrim)
    (executed : machine.executeAll instructions = .ok reached)
    (comment : String) :
    machine.run (Block.ofInstructions comment instructions).lines = .ok reached := by
  rw [Block.lines, Block.ofInstructions, run_comment]
  exact run_map_render tight executed

end Machine

/-- Whether a line is a comment or an instruction of generated code. -/
def EmittedLine (script line : String) : Prop :=
  (∃ text, line = "// " ++ text) ∨
    ∃ instruction, Instruction.Emitted script instruction ∧
      line = instruction.render

/-- What every emitted instruction can execute and keep, generated code can run
and keep. -/
theorem Machine.run_emittedLines {script : String} {Kept : Machine → Prop}
    (keeps : ∀ machine instruction, Kept machine →
      Instruction.Emitted script instruction →
        ∃ next, machine.execute instruction = .ok next ∧ Kept next)
    (machine : Machine) (kept : Kept machine) {code : List String}
    (forms : ∀ line ∈ code, EmittedLine script line) :
    ∃ reached, machine.run code = .ok reached ∧ Kept reached := by
  induction code generalizing machine with
  | nil => exact ⟨machine, rfl, kept⟩
  | cons line rest ih =>
      have restForms := fun other member =>
        forms other (List.mem_cons_of_mem line member)
      rcases forms line List.mem_cons_self with
        ⟨text, rfl⟩ | ⟨instruction, emitted, rfl⟩
      · rw [run_comment]
        exact ih machine kept restForms
      · obtain ⟨next, executed, nextKept⟩ := keeps machine instruction kept emitted
        rw [run_render emitted.isTrim executed]
        exact ih next nextKept restForms

/-- Whether loading a symbol under a table yields a cell, and leaves another
table. -/
def SymbolTable.Names (table : SymbolTable) (symbol : String) (cell : Nat)
    (after : SymbolTable) : Prop :=
  ∀ machine : Machine, machine.symbols = table →
    machine.load symbol = .ok { machine with address := cell, symbols := after }

namespace SymbolTable

theorem names_number (table : SymbolTable) {number : Nat}
    (small : number ≤ maxIndex) : table.Names (toString number) number table := by
  rintro machine rfl
  exact machine.load_number small

theorem Standard.names {table : SymbolTable} (standard : table.Standard)
    {name : String} {cell : Nat} (bound : predefined.lookup name = some cell) :
    table.Names name cell table := by
  rintro machine rfl
  exact machine.load_predefined standard bound

theorem Standard.names_stackPointer {table : SymbolTable}
    (standard : table.Standard) : table.Names Address.stackPointer 0 table :=
  standard.names (by decide +kernel)

theorem Standard.names_scratch {table : SymbolTable}
    (standard : table.Standard) : table.Names Address.scratch 13 table :=
  standard.names (by decide +kernel)

theorem names_staticSymbol (table : SymbolTable) (script : String) (index : Int) :
    table.Names (Address.staticSymbol script index)
      (table.locate (Address.staticSymbol script index)).1
      (table.locate (Address.staticSymbol script index)).2 := by
  rintro machine rfl
  exact machine.load_staticSymbol script index

end SymbolTable

theorem Machine.executeAll_load {table after : SymbolTable} {symbol : String}
    {cell : Nat} (names : table.Names symbol cell after) {memory : Memory}
    {address data : Nat} {written : List Nat} {rest : List Instruction} :
    executeAll ⟨memory, address, data, table, written⟩ (.load symbol :: rest) =
      executeAll ⟨memory, cell, data, after, written⟩ rest := by
  have loaded : execute ⟨memory, address, data, table, written⟩ (.load symbol) =
      .ok ⟨memory, cell, data, after, written⟩ := names _ rfl
  exact executeAll_cons loaded rest

end StackCompiler
