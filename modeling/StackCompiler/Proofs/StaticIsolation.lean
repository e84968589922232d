import StackCompiler.Proofs.StackMachine
import StackCompiler.Proofs.SymbolAllocation
import StackCompiler.Proofs.WordSafety

/-!
# Isolation of static storage

Scripts that run on one machine share its memory, and only the names of their
static cells keep them apart.  This file shows that names are enough: generated
code runs on every machine, the static symbols that it uses are bound when it
ends, and the cells of two static symbols differ unless script and index agree.
None of these cells is one of those that the machine starts with.
-/

namespace StackCompiler

open SymbolTable

/-- Every emitted instruction executes, whatever the symbol table holds. -/
theorem Instruction.Emitted.exists_execute_eq_ok {script : String}
    {instruction : Instruction} (emitted : instruction.Emitted script)
    (machine : Machine) : ∃ next, machine.execute instruction = .ok next := by
  cases emitted with
  | number small => exact ⟨_, machine.load_number small⟩
  | @cell name reserved =>
      have letters : (Address.reserved.all fun name =>
          name.toList.any fun character => !Text.isDigit character) = true := by
        decide +kernel
      obtain ⟨character, inName, notDigit⟩ :=
        List.any_eq_true.mp (List.all_eq_true.mp letters name reserved)
      exact ⟨_, machine.load_symbol inName (by simpa using notDigit)⟩
  | @static index small => exact ⟨_, machine.load_staticSymbol script index⟩
  | compute destination computation => exact ⟨_, rfl⟩

theorem Machine.exists_run_eq_ok {script : String} {code : List String}
    (forms : ∀ line ∈ code, EmittedLine script line) (machine : Machine) :
    ∃ reached, machine.run code = .ok reached := by
  have executes : ∀ (machine : Machine) instruction, True →
      Instruction.Emitted script instruction →
        ∃ next, machine.execute instruction = .ok next ∧ True := by
    intro machine instruction _ emitted
    obtain ⟨next, executed⟩ := emitted.exists_execute_eq_ok machine
    exact ⟨next, executed, trivial⟩
  obtain ⟨reached, ran, _⟩ := run_emittedLines executes machine trivial forms
  exact ⟨reached, ran⟩

/-- A static symbol that generated code loads is bound when the code ends. -/
theorem Machine.exists_bound_of_run {script : String} {code : List String}
    (forms : ∀ line ∈ code, EmittedLine script line) {index : Nat}
    (small : index ≤ maxIndex)
    (loads : (Instruction.load (Address.staticSymbol script index)).render ∈ code)
    {machine reached : Machine} (ran : machine.run code = .ok reached) :
    ∃ cell, reached.symbols.lookup? (Address.staticSymbol script index) =
      some cell := by
  obtain ⟨front, rest, rfl⟩ := List.append_of_mem loads
  obtain ⟨middle, ranFront⟩ := machine.exists_run_eq_ok
    fun line member => forms line (List.mem_append_left _ member)
  have executed := middle.load_staticSymbol script index
  have emitted : Instruction.Emitted script
      (.load (Address.staticSymbol script index)) := .static small
  rw [run_append ranFront, run_render emitted.isTrim executed] at ran
  have bound := middle.symbols.lookup?_locate (Address.staticSymbol script index)
  exact ⟨_, (grows_of_run ran).lookup? bound⟩

/-- A source together with the program that it is compiled to. -/
structure CompiledScript where
  name : String
  policy : StaticPolicy
  source : List String
  program : Program
  accepted : compile name policy source = .ok (.compiled program)

theorem Command.index?_of_static? {command : Command} {index : Nat}
    (uses : command.static? = some index) : command.index? = some index := by
  cases command with
  | add | sub => cases uses
  | push segment place | pop segment place =>
      cases segment <;> cases uses
      rfl

/-- The code of a command that uses a static cell loads its symbol. -/
theorem Codegen.Emits.load_staticSymbol_mem {script : String} {command : Command}
    {instructions : List Instruction} (emits : Emits script command instructions)
    {index : Nat} (uses : command.static? = some index) :
    Instruction.load (Address.staticSymbol script index) ∈ instructions := by
  cases emits with
  | add | sub => cases uses
  | push form =>
      cases form with
      | static => cases uses; simp [Codegen.loadData]
      | based register => cases register <;> cases uses
      | temp | pointerThis | pointerThat | constant => cases uses
  | popDirect form =>
      cases form with
      | static => cases uses; simp [Codegen.popDirect]
      | temp | pointerThis | pointerThat => cases uses
  | popIndirect form =>
      cases form with
      | based register => cases register <;> cases uses

namespace CompiledScript

/-- The static indices that the commands of a script use. -/
def Uses (script : CompiledScript) (index : Nat) : Prop :=
  ∃ command ∈ sourceCommands script.source, command.static? = some index

theorem Uses.loads {script : CompiledScript} {index : Nat}
    (uses : script.Uses index) :
    index ≤ maxIndex ∧
      (Instruction.load (Address.staticSymbol script.name index)).render ∈
        script.program.lines := by
  obtain ⟨command, member, usesIndex⟩ := uses
  obtain ⟨place, inside, rfl⟩ := List.mem_iff_getElem.mp member
  have blocks := forall₂_commands_of_compiled script.accepted
  have ⟨generated, small⟩ := blocks.get inside (blocks.length_eq ▸ inside)
  obtain ⟨comment, instructions, isBlock, emits⟩ := Codegen.emits_of_block generated
  have loads := emits.load_staticSymbol_mem usesIndex
  refine ⟨small index (Command.index?_of_static? usesIndex), ?_⟩
  have blockMember := List.get_mem script.program.blocks
    ⟨place, blocks.length_eq ▸ inside⟩
  refine List.mem_flatMap.mpr ⟨_, blockMember, ?_⟩
  rw [isBlock]
  exact List.mem_cons_of_mem _ (List.mem_map_of_mem loads)

end CompiledScript

namespace Machine

/-- Run the programs of scripts one after the other. -/
def runScripts (machine : Machine) (scripts : List CompiledScript) :
    Except Halt Machine :=
  scripts.foldlM (fun machine script => machine.run script.program.lines) machine

theorem runScripts_binds (machine : Machine) (scripts : List CompiledScript) :
    ∃ reached, machine.runScripts scripts = .ok reached ∧
      Grows machine.symbols reached.symbols ∧
      ∀ script ∈ scripts, ∀ index, script.Uses index →
        ∃ cell, reached.symbols.lookup? (Address.staticSymbol script.name index) =
          some cell := by
  induction scripts generalizing machine with
  | nil => exact ⟨machine, rfl, .refl _, by simp⟩
  | cons script rest ih =>
      have forms := fun line (member : line ∈ script.program.lines) =>
        line_of_compiled script.accepted member
      obtain ⟨middle, ran⟩ := machine.exists_run_eq_ok forms
      obtain ⟨reached, ranRest, grows, bound⟩ := ih middle
      refine ⟨reached, ?_, (grows_of_run ran).trans grows, ?_⟩
      · rw [runScripts, List.foldlM_cons, ran]
        exact ranRest
      · intro other member index uses
        rcases List.mem_cons.mp member with rfl | inRest
        · obtain ⟨small, loads⟩ := uses.loads
          obtain ⟨cell, found⟩ := exists_bound_of_run forms small loads ran
          exact ⟨cell, grows.lookup? found⟩
        · exact bound other inRest index uses

end Machine

/-- The cells of static symbols lie behind the predefined ones, and coincide
only if script and index do. -/
theorem SymbolTable.Allocated.static_cells {table : SymbolTable}
    (allocated : table.Allocated) {script other : String} {index place : Nat}
    {first second : Nat}
    (firstBound : table.lookup? (Address.staticSymbol script index) = some first)
    (secondBound : table.lookup? (Address.staticSymbol other place) = some second) :
    firstFree ≤ first ∧ (first = second ↔ script = other ∧ index = place) := by
  have firstAllots : table.Allots first (Address.staticSymbol script index) :=
    ⟨Address.predefined_lookup_staticSymbol script index, firstBound⟩
  have secondAllots : table.Allots second (Address.staticSymbol other place) :=
    ⟨Address.predefined_lookup_staticSymbol other place, secondBound⟩
  refine ⟨(allocated.range first _ firstAllots).1, ?_⟩
  rw [← Address.staticSymbol_inj]
  constructor
  · rintro rfl
    exact allocated.name_unique firstAllots secondAllots
  · intro same
    rw [same, secondBound] at firstBound
    injection firstBound with equal
    exact equal.symm

/-- Static storage is isolated.  Take a machine that has bound no symbol of its
own.  Whatever is done to it, failing instructions included, the predefined
symbols keep their cells, the other bound names correspond one to one to the
cells from 16 up to the next free one, and no binding changes later.  After any
such history, the programs of any scripts run one after the other without
fault; the static symbols that they use are then bound, to cells from 16 on,
and two of these cells coincide exactly if script and index do. -/
theorem static_storage_isolated (machine : Machine)
    (symbols : machine.symbols = .initial) :
    (∀ actions, (machine.performAll actions).symbols.Allocated) ∧
    (∀ actions later name cell,
      (machine.performAll actions).symbols.lookup? name = some cell →
        (machine.performAll (actions ++ later)).symbols.lookup? name = some cell) ∧
    ∀ actions (scripts : List CompiledScript),
      ∃ reached, (machine.performAll actions).runScripts scripts = .ok reached ∧
        (∀ script ∈ scripts, ∀ index, script.Uses index →
          ∃ cell, reached.symbols.lookup? (Address.staticSymbol script.name index) =
            some cell) ∧
        ∀ (script other : String) (index place first second : Nat),
          reached.symbols.lookup? (Address.staticSymbol script index) = some first →
          reached.symbols.lookup? (Address.staticSymbol other place) = some second →
            16 ≤ first ∧ (first = second ↔ script = other ∧ index = place) := by
  have start : machine.symbols.Allocated := symbols ▸ allocated_initial
  refine ⟨?_, ?_, ?_⟩
  · intro actions
    exact (machine.performAll_grows actions).allocated start
  · intro actions later name cell bound
    rw [Machine.performAll_append]
    exact (Machine.performAll_grows _ later).lookup? bound
  · intro actions scripts
    obtain ⟨reached, ran, grows, bound⟩ :=
      (machine.performAll actions).runScripts_binds scripts
    have allocated := ((machine.performAll_grows actions).trans grows).allocated start
    exact ⟨reached, ran, bound, fun _ _ _ _ _ _ => allocated.static_cells⟩

/-- Two scripts whose names and indices run into each other, after a failing
instruction and after a static symbol was read from outside. -/
theorem static_storage_isolated_dotted :
    let actions : List Machine.Action :=
      [.step "@\u00b2", .read (.symbol "R13.7"), .run ["@R13.7", "M=Q"]]
    ∃ (dotless dotted : CompiledScript) (reached : Machine) (first second : Nat),
      dotless.name = "R13" ∧ dotted.name = "R13.1" ∧
      Machine.initial.symbols = .initial ∧
      (Machine.initial.performAll actions).runScripts [dotless, dotted] =
        .ok reached ∧
      reached.symbols.lookup? "R13.1" = some first ∧
      reached.symbols.lookup? "R13.1.1" = some second ∧
      16 ≤ first ∧ first ≠ second := by
  intro actions
  let dotless : CompiledScript := ⟨"R13", .symbols, ["push static 1"], _, rfl⟩
  let dotted : CompiledScript := ⟨"R13.1", .symbols, ["pop static 1"], _, rfl⟩
  obtain ⟨_, _, isolated⟩ := static_storage_isolated Machine.initial rfl
  obtain ⟨reached, ran, bound, cells⟩ := isolated actions [dotless, dotted]
  have firstUses : dotless.Uses 1 := ⟨.push .static 1, by decide, rfl⟩
  have secondUses : dotted.Uses 1 := ⟨.pop .static 1, by decide, rfl⟩
  obtain ⟨first, firstBound⟩ := bound dotless (by simp) 1 firstUses
  obtain ⟨second, secondBound⟩ := bound dotted (by simp) 1 secondUses
  obtain ⟨low, coincide⟩ := cells "R13" "R13.1" 1 1 first second firstBound secondBound
  refine ⟨dotless, dotted, reached, first, second, rfl, rfl, rfl, ran, firstBound,
    secondBound, low, ?_⟩
  intro same
  exact absurd (coincide.mp same).1 (by decide)

end StackCompiler
