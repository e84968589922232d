import StackCompiler.Proofs.CommandEffect
import StackCompiler.Proofs.CompilationExact
import StackCompiler.Proofs.MemoryLayout

/-!
# Generated code simulates the stack machine

If the stack machine executes the commands of an accepted source without
violation, then the target machine runs the generated code without fault and
ends with a memory that holds the final state of the stack machine.  The
argument is first made for the block of one command and then for whole
programs, by induction on the commands.
-/

namespace StackCompiler

open SymbolTable StackMachine

/-- The cell that a base register and an index lead to is the effective address
of the stack machine. -/
theorem StackMachine.Holds.target_eq {start memory : Memory} {limit : Nat}
    {indices : List Nat} {state : StackMachine}
    (holds : Holds start limit indices state memory) (register : BaseRegister)
    (index : Nat) :
    memory.target register.cell index =
      (state.bases register + BitVec.ofNat 16 index).toNat := by
  have base : memory.read register.cell = (state.bases register).toNat :=
    holds.cells (.base register) trivial
  rw [Memory.target, base, BitVec.toNat_add, BitVec.toNat_ofNat]
  simp only [toWord, wordSize]
  omega

theorem StackMachine.Room.of_meetAll {limit : Nat} {indices used : List Nat}
    (room : Room limit (SymbolTable.meetAll indices used)) : Room limit indices :=
  ⟨room.low, room.high,
    (Nat.add_le_add_left (length_le_meetAll indices used) _).trans room.statics⟩

theorem StackMachine.Holds.meetAll {start memory : Memory} {limit : Nat}
    {indices : List Nat} {state : StackMachine}
    (holds : Holds start limit indices state memory) (used : List Nat)
    (room : Room limit (SymbolTable.meetAll indices used)) :
    Holds start limit (SymbolTable.meetAll indices used) state memory := by
  induction used generalizing indices with
  | nil => exact holds
  | cons index rest ih =>
      rw [meetAll_cons] at room ⊢
      exact ih (holds.meet index room.of_meetAll) room

section Addresses

variable {script : String} {segment : Segment} {index : Nat}

/-- The symbol of a direct address names the cell that the segment has, which
is live once the symbol was met. -/
theorem Address.Form.names_direct {symbol : String}
    (form : Form script segment index (.direct symbol)) (limit : Nat)
    (state : StackMachine) (indices : List Nat) :
    let after := meetAll indices (segment.static? index).toList
    ∃ cell, state.locate limit segment index = .ok cell ∧
      cell.Live limit after ∧
      (withStatics script indices).Names symbol (cell.address after)
        (withStatics script after) := by
  cases form with
  | temp inside =>
      refine ⟨.temp ⟨index, inside⟩, dif_pos inside, trivial, ?_⟩
      apply names_number
      have small : index < 8 := inside
      simp only [Address.tempBase, maxIndex]
      omega
  | pointerThis =>
      have standard := withStatics_standard script indices
      exact ⟨.base .this, rfl, trivial, standard.names_base .this⟩
  | pointerThat =>
      have standard := withStatics_standard script indices
      exact ⟨.base .that, rfl, trivial, standard.names_base .that⟩
  | static =>
      refine ⟨.static index, rfl, mem_meet.mpr (Or.inr rfl), ?_⟩
      have names := (withStatics script indices).names_staticSymbol script index
      rw [locate_withStatics] at names
      exact names

theorem Address.Form.ne_constant_of_direct {symbol : String}
    (form : Form script segment index (.direct symbol)) : segment ≠ .constant := by
  cases form <;> decide

theorem BaseRegister.segment_ne_constant (register : BaseRegister) :
    register.segment ≠ .constant := by
  cases register <;> decide

end Addresses

section Step

variable {script : String} {start : Memory} {limit : Nat} {indices : List Nat}
  {state next : StackMachine} {machine : Machine}

theorem Address.Form.executeAll_loadData {segment : Segment} {index : Nat}
    {address : Address} (form : Form script segment index address)
    (small : index ≤ maxIndex)
    (holds : Holds start limit indices state machine.memory)
    (symbols : machine.symbols = withStatics script indices)
    (room : Room limit (meetAll indices (segment.static? index).toList))
    {word : Word} (found : state.value limit segment index = .ok word) :
    ∃ place, machine.executeAll (Codegen.loadData address) =
      .ok { machine with
        address := place
        data := word.toNat
        symbols := withStatics script
          (meetAll indices (segment.static? index).toList) } := by
  obtain ⟨memory, oldAddress, oldData, table, written⟩ := machine
  obtain rfl : table = withStatics script indices := symbols
  cases address with
  | literal symbol =>
      cases form with
      | constant =>
          cases found
          refine ⟨index, ?_⟩
          rw [Machine.executeAll_loadData_literal (names_number _ small),
            BitVec.toNat_ofNat, Nat.mod_eq_of_lt]
          · rfl
          · exact Nat.lt_of_le_of_lt small (by decide)
  | direct symbol =>
      obtain ⟨cell, located, live, names⟩ := form.names_direct limit state indices
      rw [value_of_ne_constant limit state form.ne_constant_of_direct, located] at found
      cases found
      have word := (holds.meetAll _ room).cells cell live
      refine ⟨cell.address (meetAll indices (segment.static? index).toList), ?_⟩
      rw [Machine.executeAll_loadData_direct names, word]
  | indirect base offset =>
      cases form with
      | based register =>
          rw [value_of_ne_constant limit state register.segment_ne_constant,
            locate_segment] at found
          cases reached : state.reach limit register index with
          | error violation =>
              rw [reached] at found
              cases found
          | ok cell =>
              obtain ⟨inside, rfl⟩ := reach_eq_ok reached
              rw [reached] at found
              cases found
              let target := state.bases register + BitVec.ofNat 16 index
              have word : memory.read target.toNat = (state.heap target).toNat :=
                holds.cells (.heap target) inside
              have names := (withStatics_standard script indices).names_base register
              refine ⟨target.toNat, ?_⟩
              rw [Machine.executeAll_loadData_indirect names small,
                holds.target_eq register index, word, BaseRegister.static?_segment]
              rfl

theorem combine_plus (left right : Word) :
    Machine.combine left.toNat right.toNat .plus = (left + right).toNat := by
  rw [BitVec.toNat_add]
  simp only [Machine.combine, toWord, wordSize]
  omega

theorem combine_minus (left right : Word) :
    Machine.combine left.toNat right.toNat .minus = (left - right).toNat := by
  have bound := right.isLt
  rw [BitVec.toNat_sub]
  simp only [Machine.combine, toWord, wordSize]
  omega

/-- The code of one command does what the command does. -/
theorem Codegen.Emits.simulates {command : Command}
    {instructions : List Instruction} (emits : Emits script command instructions)
    (small : ∀ index ∈ command.index?, index ≤ maxIndex)
    (holds : Holds start limit indices state machine.memory)
    (symbols : machine.symbols = withStatics script indices)
    (room : Room limit (meetAll indices command.static?.toList))
    (executed : state.execute limit command = .ok next) :
    let after := meetAll indices command.static?.toList
    ∃ memory written,
      machine.Yields instructions memory (withStatics script after) written ∧
        Holds start limit after next memory := by
  have standard : machine.symbols.Standard := by
    rw [symbols]
    exact withStatics_standard script indices
  cases emits with
  | add =>
      obtain ⟨left, right, rest, stack, rfl⟩ := combine_eq_ok executed
      have yields := Machine.yields_combineTop standard .plus
      rw [symbols] at yields
      exact ⟨_, _, yields, holds.combined room stack (combine_plus left right)⟩
  | sub =>
      obtain ⟨left, right, rest, stack, rfl⟩ := combine_eq_ok executed
      have yields := Machine.yields_combineTop standard .minus
      rw [symbols] at yields
      exact ⟨_, _, yields, holds.combined room stack (combine_minus left right)⟩
  | @push segment index _ form =>
      rw [execute] at executed
      cases found : state.value limit segment index with
      | error violation =>
          rw [found] at executed
          cases executed
      | ok word =>
          rw [found] at executed
          obtain ⟨fits, rfl⟩ := push_eq_ok executed
          obtain ⟨place, loads⟩ :=
            form.executeAll_loadData (small index rfl) holds symbols room found
          have low : machine.memory.top < wordSize := by
            rw [Memory.top, holds.pointer]
            exact Nat.lt_of_le_of_lt holds.fits room.high
          exact ⟨_, _, Machine.yields_push loads (withStatics_standard _ _) low,
            (holds.meetAll _ room).pushed room word fits⟩
  | @popDirect segment index _ form =>
      obtain ⟨word, rest, cell, stack, located, rfl⟩ := pop_eq_ok executed
      obtain ⟨other, otherLocated, live, names⟩ :=
        form.names_direct limit state indices
      obtain rfl : cell = other := Except.ok.inj (located.symm.trans otherLocated)
      rw [← symbols] at names
      exact ⟨_, _, Machine.yields_popDirect standard names,
        (holds.meetAll _ room).popped room stack live⟩
  | @popIndirect segment index _ _ form =>
      cases form with
      | based register =>
          obtain ⟨word, rest, cell, stack, located, rfl⟩ := pop_eq_ok executed
          rw [locate_segment] at located
          obtain ⟨inside, rfl⟩ := reach_eq_ok located
          simp only [Command.static?, BaseRegister.static?_segment] at room ⊢
          have names := standard.names_base register
          have yields := Machine.yields_popIndirect standard names (small index rfl)
          rw [holds.target_eq register index, symbols] at yields
          exact ⟨_, _, yields, (holds.parked room _).popped room stack inside⟩

end Step

/-- The static indices that commands use, in order. -/
def staticUses (commands : List Command) : List Nat :=
  commands.filterMap Command.static?

theorem staticUses_cons (command : Command) (rest : List Command) :
    staticUses (command :: rest) = command.static?.toList ++ staticUses rest := by
  rw [staticUses, List.filterMap_cons]
  cases command.static? <;> rfl

/-- The code of several commands does what the commands do. -/
theorem run_simulates {script : String} {policy : StaticPolicy}
    {commands : List Command} {blocks : List Block}
    (generated : List.Forall₂
      (fun command block => Codegen.block script policy command = .ok block ∧
        ∀ index ∈ command.index?, index ≤ maxIndex) commands blocks)
    {start : Memory} {limit : Nat} {indices : List Nat}
    {state final : StackMachine} {machine : Machine}
    (holds : Holds start limit indices state machine.memory)
    (symbols : machine.symbols = withStatics script indices)
    (room : Room limit (meetAll indices (staticUses commands)))
    (ran : state.run limit commands = .ok final) :
    let after := meetAll indices (staticUses commands)
    ∃ reached, machine.run (blocks.flatMap Block.lines) = .ok reached ∧
      reached.symbols = withStatics script after ∧
      Holds start limit after final reached.memory := by
  induction generated generalizing indices state machine with
  | nil =>
      cases ran
      exact ⟨machine, rfl, symbols, holds⟩
  | @cons command block commands blocks isBlock _ ih =>
      obtain ⟨comment, instructions, rfl, emits⟩ := Codegen.emits_of_block isBlock.1
      have tight : ∀ instruction ∈ instructions, instruction.IsTrim :=
        fun instruction member => (emits.emitted isBlock.2 instruction member).isTrim
      rw [StackMachine.run, List.foldlM_cons] at ran
      cases executed : state.execute limit command with
      | error violation =>
          rw [executed] at ran
          cases ran
      | ok next =>
          rw [executed] at ran
          rw [staticUses_cons, meetAll_append] at room ⊢
          obtain ⟨memory, written, yields, middleHolds⟩ :=
            emits.simulates isBlock.2 holds symbols room.of_meetAll executed
          obtain ⟨middle, executedAll, rfl, middleSymbols⟩ := yields.exists_reached
          obtain ⟨reached, reaches, conclusion⟩ :=
            ih middleHolds middleSymbols room ran
          refine ⟨reached, ?_, conclusion⟩
          rw [List.flatMap_cons,
            Machine.run_append (Machine.run_block tight executedAll comment)]
          exact reaches

theorem StackMachine.holds_ofMachine {machine : Machine} {limit : Nat}
    (sized : machine.WordSized) (low : stackStart ≤ limit)
    (pointer : machine.memory.read 0 = stackStart)
    (blank : ∀ address : Nat, firstFree ≤ address → address < stackStart →
      machine.memory.read address = 0) :
    Holds machine.memory limit [] (ofMachine machine) machine.memory where
  cells cell live := by
    have word : ∀ address : Int,
        (BitVec.ofNat 16 (machine.memory.read address)).toNat =
          machine.memory.read address := fun address => by
      rw [BitVec.toNat_ofNat]
      exact Nat.mod_eq_of_lt (sized.memory address)
    cases cell with
    | static index => cases live
    | base | temp | heap => exact (word _).symm
  unmet _ _ := rfl
  free := blank
  frame _ _ := rfl
  pointer := pointer
  fits := low
  stack := trivial

/-- Generated code is correct.  Let a source be accepted and the stack machine
execute its commands without violation, with at most as many different static
indices as there are cells before the stack.  Then the target machine runs the
code without fault, its memory holds the final state of the stack machine, and
the symbol of every static index in use is bound to the cell of that index. -/
theorem compiled_simulates_stackMachine (script : String) (policy : StaticPolicy)
    (lines : List String) (program : Program) (limit : Nat) (machine : Machine)
    (final : StackMachine)
    (accepted : compile script policy lines = .ok (.compiled program))
    (low : 256 ≤ limit) (high : limit ≤ 65535)
    (symbols : machine.symbols = .initial) (sized : machine.WordSized)
    (pointer : machine.memory.read 0 = 256)
    (blank : ∀ address : Nat, 16 ≤ address → address < 256 →
      machine.memory.read address = 0)
    (few : (staticUses (sourceCommands lines)).dedup.length ≤ 240)
    (ran : (StackMachine.ofMachine machine).run limit (sourceCommands lines) =
      .ok final) :
    let statics := meetAll [] (staticUses (sourceCommands lines))
    ∃ reached, machine.run program.lines = .ok reached ∧
      Holds machine.memory limit statics final reached.memory ∧
      ∀ index ∈ statics,
        reached.symbols.lookup? (Address.staticSymbol script index) =
          some (Cell.address statics (.static index)) := by
  intro statics
  have room : Room limit statics := by
    refine ⟨low, Nat.lt_succ_of_le high, ?_⟩
    rw [length_meetAll_nil]
    simp only [firstFree, stackStart]
    omega
  have holds := holds_ofMachine sized low pointer blank
  obtain ⟨reached, reaches, table, finalHolds⟩ :=
    run_simulates (forall₂_commands_of_compiled accepted) holds symbols room ran
  refine ⟨reached, reaches, finalHolds, ?_⟩
  intro index member
  rw [table, lookup?_withStatics, if_pos member]
  rfl

/-- A program that moves a base register, reaches the heap through it, and uses
a static cell before it was written. -/
theorem compiled_simulates_stackMachine_rebased :
    let lines := ["push constant 300", "pop pointer 0 // base", "push constant 7",
      "pop this 2", "", "push static 3", "push this 2", "sub", "pop static 3",
      "push static 3"]
    let machine : Machine := ⟨Memory.empty.write 0 256, 0, 0, .initial, []⟩
    let statics := meetAll [] (staticUses (sourceCommands lines))
    ∃ program final reached,
      compile "Prog" .symbols lines = .ok (.compiled program) ∧
      (StackMachine.ofMachine machine).run 300 (sourceCommands lines) = .ok final ∧
      final.stack = [0xfff9] ∧
      machine.run program.lines = .ok reached ∧
      Holds machine.memory 300 statics final reached.memory ∧
      ∀ index ∈ statics,
        reached.symbols.lookup? (Address.staticSymbol "Prog" index) =
          some (Cell.address statics (.static index)) := by
  intro lines machine statics
  have accepted : ∃ program, compile "Prog" .symbols lines = .ok (.compiled program) :=
    ⟨_, rfl⟩
  have ran : ∃ final, (StackMachine.ofMachine machine).run 300
      (sourceCommands lines) = .ok final ∧ final.stack = [0xfff9] :=
    ⟨_, rfl, by decide +kernel⟩
  have read : ∀ address : Int,
      machine.memory.read address = if address = 0 then 256 else 0 :=
    fun address => Memory.read_write Memory.empty 0 address 256
  have sized : machine.WordSized := by
    refine ⟨by decide, by decide, fun address => ?_⟩
    rw [read]
    split <;> decide
  have blank : ∀ address : Nat, 16 ≤ address → address < 256 →
      machine.memory.read address = 0 := by
    intro address above _
    rw [read, if_neg (by omega)]
  obtain ⟨program, compiled⟩ := accepted
  obtain ⟨final, ranFinal, stack⟩ := ran
  obtain ⟨reached, conclusion⟩ :=
    compiled_simulates_stackMachine "Prog" .symbols lines program 300 machine final
      compiled (by decide) (by decide) rfl sized rfl blank (by decide +kernel) ranFinal
  exact ⟨program, final, reached, compiled, ranFinal, stack, conclusion⟩

end StackCompiler
