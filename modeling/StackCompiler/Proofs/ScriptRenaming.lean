import Mathlib.Data.List.Forall2
import StackCompiler.Proofs.CompilationExact
import StackCompiler.Proofs.Execution

/-!
# Renaming a script

The name of a script occurs in its code only inside the symbols of its static
cells.  Two names give codes that are related instruction by instruction, and
two machines that execute them stay in step: registers, memory and the log of
writes are the same, and static symbols with the same indices are bound to the
same cells in the same order.
-/

namespace StackCompiler

open SymbolTable

section Outcomes

variable {Cause First Second Third Fourth : Type}

/-- Two outcomes with the same error, or with related results. -/
inductive SameOutcome (Related : First → Second → Prop) :
    Except Cause First → Except Cause Second → Prop
  | error (cause : Cause) : SameOutcome Related (.error cause) (.error cause)
  | ok {first : First} {second : Second} :
      Related first second → SameOutcome Related (.ok first) (.ok second)

namespace SameOutcome

variable {Related : First → Second → Prop} {Next : Third → Fourth → Prop}
  {left : Except Cause First} {right : Except Cause Second}

theorem bind {leftNext : First → Except Cause Third}
    {rightNext : Second → Except Cause Fourth} (same : SameOutcome Related left right)
    (continues : ∀ first second, Related first second →
      SameOutcome Next (leftNext first) (rightNext second)) :
    SameOutcome Next (left.bind leftNext) (right.bind rightNext) := by
  cases same with
  | error cause => exact .error cause
  | ok related => exact continues _ _ related

theorem map {leftChange : First → Third} {rightChange : Second → Fourth}
    (same : SameOutcome Related left right)
    (changes : ∀ first second, Related first second →
      Next (leftChange first) (rightChange second)) :
    SameOutcome Next (left.map leftChange) (right.map rightChange) := by
  cases same with
  | error cause => exact .error cause
  | ok related => exact .ok (changes _ _ related)

theorem mapError {Other : Type} (same : SameOutcome Related left right)
    (change : Cause → Other) :
    SameOutcome Related (left.mapError change) (right.mapError change) := by
  cases same with
  | error cause => exact .error (change cause)
  | ok related => exact .ok related

end SameOutcome

end Outcomes

/-- Instructions that differ by the script of a static symbol at most. -/
inductive Instruction.Renamed (script other : String) :
    Instruction → Instruction → Prop
  | number {number : Nat} :
      number ≤ maxIndex →
        Renamed script other (.load (toString number)) (.load (toString number))
  | cell {name : String} :
      name ∈ Address.reserved → Renamed script other (.load name) (.load name)
  | static {index : Nat} :
      index ≤ maxIndex →
        Renamed script other (.load (Address.staticSymbol script index))
          (.load (Address.staticSymbol other index))
  | compute (destination : Destination) (computation : Computation) :
      Renamed script other (.compute destination computation)
        (.compute destination computation)

/-- Addresses that differ by the script of a static symbol at most. -/
inductive Address.Renamed (script other : String) : Address → Address → Prop
  | based (register : BaseRegister) {index : Nat} :
      index ≤ maxIndex →
        Renamed script other (.indirect register.symbol index)
          (.indirect register.symbol index)
  | temp {index : Nat} :
      index < Address.tempSize →
        Renamed script other (.direct (toString (Address.tempBase + index)))
          (.direct (toString (Address.tempBase + index)))
  | pointer (register : BaseRegister) :
      Renamed script other (.direct register.symbol) (.direct register.symbol)
  | constant {index : Nat} :
      index ≤ maxIndex →
        Renamed script other (.literal (toString index)) (.literal (toString index))
  | static {index : Nat} :
      index ≤ maxIndex →
        Renamed script other (.direct (Address.staticSymbol script index))
          (.direct (Address.staticSymbol other index))

/-- Code that differs by the script of static symbols at most. -/
def CodeRenamed (script other : String) :
    List Instruction → List Instruction → Prop :=
  List.Forall₂ (Instruction.Renamed script other)

/-- Blocks with the same comment whose code differs by the script of static
symbols at most. -/
def Block.Renamed (script other : String) (block mate : Block) : Prop :=
  ∃ comment code mateCode, CodeRenamed script other code mateCode ∧
    block = .ofInstructions comment code ∧ mate = .ofInstructions comment mateCode

section Renaming

variable {script other : String}

theorem Instruction.Renamed.emitted {instruction mate : Instruction}
    (renamed : Renamed script other instruction mate) :
    instruction.Emitted script ∧ mate.Emitted other := by
  cases renamed with
  | number small => exact ⟨.number small, .number small⟩
  | cell reserved => exact ⟨.cell reserved, .cell reserved⟩
  | static small => exact ⟨.static small, .static small⟩
  | compute destination computation => exact ⟨.compute _ _, .compute _ _⟩

namespace Codegen

theorem pushData_renamed : CodeRenamed script other pushData pushData :=
  .cons (.cell (by decide)) (.cons (.compute _ _) (.cons (.compute _ _)
    (.cons (.compute _ _) .nil)))

theorem popData_renamed : CodeRenamed script other popData popData :=
  .cons (.cell (by decide)) (.cons (.compute _ _) (.cons (.compute _ _) .nil))

theorem combineTop_renamed (operator : Operator) :
    CodeRenamed script other (combineTop operator) (combineTop operator) :=
  .cons (.cell (by decide)) (.cons (.compute _ _) (.cons (.compute _ _)
    (.cons (.compute _ _) (.cons (.compute _ _) (.cons (.compute _ _)
      (.cons (.compute _ _) (.cons (.compute _ _) .nil)))))))

end Codegen

namespace Address.Renamed

variable {address mate : Address} {symbol mateSymbol base mateBase : String}
  {offset mateOffset : Int}

theorem load_direct
    (renamed : Renamed script other (.direct symbol) (.direct mateSymbol)) :
    Instruction.Renamed script other (.load symbol) (.load mateSymbol) := by
  cases renamed with
  | temp inside =>
      apply Instruction.Renamed.number
      have small := Nat.add_lt_add_left inside tempBase
      exact Nat.le_trans (Nat.le_of_lt small) (by decide)
  | pointer register => exact .cell register.symbol_mem_reserved
  | static small => exact .static small

theorem load_indirect (renamed : Renamed script other (.indirect base offset)
      (.indirect mateBase mateOffset)) :
    Instruction.Renamed script other (.load base) (.load mateBase) ∧
      Instruction.Renamed script other (.load (toString offset))
        (.load (toString mateOffset)) := by
  cases renamed with
  | based register small => exact ⟨.cell register.symbol_mem_reserved, .number small⟩

theorem loadData (renamed : Renamed script other address mate) :
    CodeRenamed script other (Codegen.loadData address) (Codegen.loadData mate) := by
  cases renamed with
  | based register small =>
      exact .cons (.cell register.symbol_mem_reserved) (.cons (.compute _ _)
        (.cons (.number small) (.cons (.compute _ _) (.cons (.compute _ _) .nil))))
  | temp inside => exact .cons (load_direct (.temp inside)) (.cons (.compute _ _) .nil)
  | pointer register =>
      exact .cons (load_direct (.pointer register)) (.cons (.compute _ _) .nil)
  | constant small => exact .cons (.number small) (.cons (.compute _ _) .nil)
  | static small => exact .cons (load_direct (.static small)) (.cons (.compute _ _) .nil)

theorem popDirect
    (renamed : Renamed script other (.direct symbol) (.direct mateSymbol)) :
    CodeRenamed script other (Codegen.popDirect symbol)
      (Codegen.popDirect mateSymbol) :=
  List.rel_append Codegen.popData_renamed
    (.cons renamed.load_direct (.cons (.compute _ _) .nil))

theorem popIndirect (renamed : Renamed script other (.indirect base offset)
      (.indirect mateBase mateOffset)) :
    CodeRenamed script other (Codegen.popIndirect base offset)
      (Codegen.popIndirect mateBase mateOffset) := by
  obtain ⟨loadsBase, loadsOffset⟩ := renamed.load_indirect
  have scratch : Instruction.Renamed script other (.load scratch) (.load scratch) :=
    .cell (by decide)
  refine List.rel_append (List.rel_append ?_ Codegen.popData_renamed) ?_
  · exact .cons loadsBase (.cons (.compute _ _) (.cons loadsOffset
      (.cons (.compute _ _) (.cons scratch (.cons (.compute _ _) .nil)))))
  · exact .cons scratch (.cons (.compute _ _) (.cons (.compute _ _) .nil))

end Address.Renamed

theorem Address.ofSegment_renamed (policy : StaticPolicy) (segment : Segment)
    {index : Nat} (small : index ≤ maxIndex) :
    SameOutcome (Renamed script other) (ofSegment script policy segment index)
      (ofSegment other policy segment index) := by
  cases segment with
  | locals => exact .ok (.based .locals small)
  | argument => exact .ok (.based .argument small)
  | this => exact .ok (.based .this small)
  | that => exact .ok (.based .that small)
  | constant => exact .ok (.constant small)
  | temp =>
      rw [ofSegment_temp, ofSegment_temp]
      split
      next inside => exact .ok (.temp inside)
      next => exact .error _
  | pointer =>
      rcases index with _ | _ | index
      · exact .ok (.pointer .this)
      · exact .ok (.pointer .that)
      · exact .error _
  | static =>
      cases policy with
      | symbols => exact .ok (.static small)
      | reject => exact .error _

namespace Codegen

theorem pop_renamed (segment : Segment) {address mate : Address}
    (renamed : Address.Renamed script other address mate) :
    SameOutcome (Block.Renamed script other) (pop segment address)
      (pop segment mate) := by
  cases renamed with
  | based register small =>
      exact .ok ⟨_, _, _, Address.Renamed.popIndirect (.based register small), rfl, rfl⟩
  | temp inside => exact .ok ⟨_, _, _, Address.Renamed.popDirect (.temp inside), rfl, rfl⟩
  | pointer register =>
      exact .ok ⟨_, _, _, Address.Renamed.popDirect (.pointer register), rfl, rfl⟩
  | constant => exact .error _
  | static small => exact .ok ⟨_, _, _, Address.Renamed.popDirect (.static small), rfl, rfl⟩

theorem block_renamed (policy : StaticPolicy) {command : Command}
    (small : ∀ index ∈ command.index?, index ≤ maxIndex) :
    SameOutcome (Block.Renamed script other) (block script policy command)
      (block other policy command) := by
  cases command with
  | add => exact .ok ⟨_, _, _, combineTop_renamed .plus, rfl, rfl⟩
  | sub => exact .ok ⟨_, _, _, combineTop_renamed .minus, rfl, rfl⟩
  | push segment index =>
      refine (Address.ofSegment_renamed policy segment (small index rfl)).map ?_
      intro address mate renamed
      exact ⟨_, _, _, List.rel_append renamed.loadData pushData_renamed, rfl, rfl⟩
  | pop segment index =>
      change SameOutcome _ (memoryAccess script policy (.pop segment index))
        (memoryAccess other policy (.pop segment index))
      by_cases isConstant : segment = .constant
      · subst isConstant
        exact .error _
      · rw [memoryAccess_pop script policy isConstant,
          memoryAccess_pop other policy isConstant]
        exact (Address.ofSegment_renamed policy segment (small index rfl)).bind
          fun _ _ renamed => pop_renamed segment renamed

end Codegen

theorem compileLine_renamed (policy : StaticPolicy) (text : String) :
    SameOutcome (Block.Renamed script other) (compileLine script policy text)
      (compileLine other policy text) := by
  rw [compileLine, compileLine]
  split
  next => exact .error _
  next => exact .error _
  next command parsed =>
    have small := Command.index_le_of_parse parsed
    exact (Codegen.block_renamed policy small).mapError _

theorem SourceLine.complaint?_renamed (policy : StaticPolicy) (line : SourceLine) :
    line.complaint? script policy = line.complaint? other policy := by
  have same := @compileLine_renamed script other policy line.text
  rw [complaint?, complaint?]
  generalize compileLine script policy line.text = outcome at same ⊢
  generalize compileLine other policy line.text = mateOutcome at same ⊢
  cases same with
  | error fault => rfl
  | ok => rfl

theorem blocks_renamed (policy : StaticPolicy) (source : List SourceLine) :
    List.Forall₂ (Block.Renamed script other)
      (source.filterMap (SourceLine.block? script policy))
      (source.filterMap (SourceLine.block? other policy)) := by
  induction source with
  | nil => exact .nil
  | cons line rest ih =>
      have same := @compileLine_renamed script other policy line.text
      rw [List.filterMap_cons, List.filterMap_cons, SourceLine.block?,
        SourceLine.block?]
      generalize compileLine script policy line.text = outcome at same ⊢
      generalize compileLine other policy line.text = mateOutcome at same ⊢
      cases same with
      | error fault => exact ih
      | ok renamed => exact .cons renamed ih

/-- Machines that differ by the script of their static symbols at most. -/
structure Machine.Renamed (script other : String) (machine mate : Machine) :
    Prop where
  memory : machine.memory = mate.memory
  address : machine.address = mate.address
  data : machine.data = mate.data
  written : machine.written = mate.written
  symbols : ∃ indices, machine.symbols = withStatics script indices ∧
    mate.symbols = withStatics other indices

namespace Machine

theorem Renamed.start {machine : Machine} (symbols : machine.symbols = .initial) :
    machine.Renamed script other machine :=
  ⟨rfl, rfl, rfl, rfl, [], symbols, symbols⟩

variable {machine mate : Machine}

theorem Renamed.next_eq (renamed : machine.Renamed script other mate) :
    machine.symbols.next = mate.symbols.next := by
  obtain ⟨indices, table, mateTable⟩ := renamed.symbols
  rw [table, mateTable]
  rfl

theorem Renamed.operandValue_eq (renamed : machine.Renamed script other mate)
    (operand : Operand) : machine.operandValue operand = mate.operandValue operand := by
  cases operand with
  | address => exact renamed.address
  | data => exact renamed.data
  | memory => rw [operandValue, operandValue, renamed.memory, renamed.address]
  | zero => rfl
  | one => rfl

theorem Renamed.computeValue_eq (renamed : machine.Renamed script other mate)
    (computation : Computation) :
    machine.computeValue computation = mate.computeValue computation := by
  cases computation <;> simp only [computeValue, renamed.operandValue_eq]

theorem Renamed.store (renamed : machine.Renamed script other mate)
    (destination : Destination) (value : Nat) :
    (machine.store destination value).Renamed script other
      (mate.store destination value) := by
  refine ⟨?_, ?_, ?_, ?_, renamed.symbols⟩ <;>
    simp only [Machine.store, renamed.memory, renamed.address, renamed.data,
      renamed.written]

/-- Related instructions execute on related machines and keep them related. -/
theorem Renamed.execute (renamed : machine.Renamed script other mate)
    {instruction mateInstruction : Instruction}
    (instructions : instruction.Renamed script other mateInstruction) :
    ∃ next mateNext, machine.execute instruction = .ok next ∧
      mate.execute mateInstruction = .ok mateNext ∧
      next.Renamed script other mateNext := by
  obtain ⟨memory, address, data, written, indices, table, mateTable⟩ := renamed
  cases instructions with
  | number small =>
      exact ⟨_, _, machine.load_number small, mate.load_number small,
        memory, rfl, data, written, indices, table, mateTable⟩
  | cell reserved =>
      obtain ⟨cell, _, bound⟩ := lookup_of_reserved reserved
      have standard := withStatics_standard script indices
      have mateStandard := withStatics_standard other indices
      rw [← table] at standard
      rw [← mateTable] at mateStandard
      exact ⟨_, _, machine.load_predefined standard bound,
        mate.load_predefined mateStandard bound,
        memory, rfl, data, written, indices, table, mateTable⟩
  | @static index small =>
      have loads := machine.load_staticSymbol script index
      have mateLoads := mate.load_staticSymbol other index
      -- Either both tables hold the index or neither does, and its cell depends
      -- only on the indices that were met before.
      simp only [table, locate_withStatics] at loads
      simp only [mateTable, locate_withStatics] at mateLoads
      exact ⟨_, _, loads, mateLoads,
        memory, rfl, data, written, meet indices index, rfl, rfl⟩
  | compute destination computation =>
      have related : machine.Renamed script other mate :=
        ⟨memory, address, data, written, indices, table, mateTable⟩
      refine ⟨_, _, rfl, rfl, ?_⟩
      rw [related.computeValue_eq computation]
      exact related.store destination _

theorem Renamed.run_code (renamed : machine.Renamed script other mate)
    {code mateCode : List Instruction} (codes : CodeRenamed script other code mateCode) :
    ∃ reached mateReached, machine.run (code.map Instruction.render) = .ok reached ∧
      mate.run (mateCode.map Instruction.render) = .ok mateReached ∧
      reached.Renamed script other mateReached := by
  induction codes generalizing machine mate with
  | nil => exact ⟨machine, mate, rfl, rfl, renamed⟩
  | cons instructions _ ih =>
      obtain ⟨next, mateNext, executed, mateExecuted, related⟩ :=
        renamed.execute instructions
      obtain ⟨emitted, mateEmitted⟩ := instructions.emitted
      rw [List.map_cons, run_render emitted.isTrim executed, List.map_cons,
        run_render mateEmitted.isTrim mateExecuted]
      exact ih related

theorem Renamed.run_block (renamed : machine.Renamed script other mate)
    {block mateBlock : Block} (blocks : block.Renamed script other mateBlock) :
    ∃ reached mateReached, machine.run block.lines = .ok reached ∧
      mate.run mateBlock.lines = .ok mateReached ∧
      reached.Renamed script other mateReached := by
  obtain ⟨comment, code, mateCode, codes, rfl, rfl⟩ := blocks
  rw [Block.lines, Block.ofInstructions, run_comment, Block.lines,
    Block.ofInstructions, run_comment]
  exact renamed.run_code codes

/-- Related blocks run on related machines and keep them related. -/
theorem Renamed.run_blocks (renamed : machine.Renamed script other mate)
    {blocks mateBlocks : List Block}
    (related : List.Forall₂ (Block.Renamed script other) blocks mateBlocks) :
    ∃ reached mateReached, machine.run (blocks.flatMap Block.lines) = .ok reached ∧
      mate.run (mateBlocks.flatMap Block.lines) = .ok mateReached ∧
      reached.Renamed script other mateReached := by
  induction related generalizing machine mate with
  | nil => exact ⟨machine, mate, rfl, rfl, renamed⟩
  | cons first _ ih =>
      obtain ⟨next, mateNext, ran, mateRan, nextRenamed⟩ := renamed.run_block first
      rw [List.flatMap_cons, run_append ran, List.flatMap_cons, run_append mateRan]
      exact ih nextRenamed

end Machine

end Renaming

/-- The name of a script is only a label.  Under two names a source is rejected
with the same complaints, or compiled to two programs which run to the same
registers, memory, log of writes and next free cell on every machine that has
bound no symbol.  The two tables bind the static symbols of their scripts, index
by index, to the same cells. -/
theorem script_name_is_label (script other : String) (policy : StaticPolicy)
    (lines : List String)
    (short : ∀ raw ∈ lines, Command.ShortIndex (cleanLine raw)) :
    (∃ first others,
      compile script policy lines = .ok (.rejected first others) ∧
      compile other policy lines = .ok (.rejected first others)) ∨
    ∃ program mateProgram,
      compile script policy lines = .ok (.compiled program) ∧
      compile other policy lines = .ok (.compiled mateProgram) ∧
      ∀ machine : Machine, machine.symbols = .initial →
        ∃ reached mateReached, machine.run program.lines = .ok reached ∧
          machine.run mateProgram.lines = .ok mateReached ∧
          reached.Renamed script other mateReached ∧
          reached.symbols.next = mateReached.symbols.next := by
  have sized : ∀ line ∈ sourceLines lines, line.oversize? = none := fun line member =>
    SourceLine.oversize?_eq_none (shortIndex_of_mem_sourceLines short member)
  have sameComplaints : (sourceLines lines).filterMap
      (SourceLine.complaint? script policy) =
        (sourceLines lines).filterMap (SourceLine.complaint? other policy) := by
    congr 1
    funext line
    exact line.complaint?_renamed policy
  rw [compile_eq_ok_iff.mpr ⟨sized, rfl⟩, compile_eq_ok_iff.mpr ⟨sized, rfl⟩, sameComplaints]
  cases (sourceLines lines).filterMap (SourceLine.complaint? other policy) with
  | cons first others => exact Or.inl ⟨first, others, rfl, rfl⟩
  | nil =>
      refine Or.inr ⟨_, _, rfl, rfl, ?_⟩
      intro machine symbols
      obtain ⟨reached, mateReached, ran, mateRan, renamed⟩ :=
        (Machine.Renamed.start symbols).run_blocks
          (@blocks_renamed script other policy (sourceLines lines))
      exact ⟨reached, mateReached, ran, mateRan, renamed, renamed.next_eq⟩

/-- Two scripts whose names look like a register and like a number. -/
theorem script_name_is_label_reserved :
    let lines := ["push static 3", "pop static 15 // move", "push constant 7"]
    (∀ raw ∈ lines, Command.ShortIndex (cleanLine raw)) ∧
      ∃ program mateProgram,
        compile "R13" .symbols lines = .ok (.compiled program) ∧
        compile "12" .symbols lines = .ok (.compiled mateProgram) ∧
        program ≠ mateProgram ∧
        ∀ machine : Machine, machine.symbols = .initial →
          ∃ reached mateReached, machine.run program.lines = .ok reached ∧
            machine.run mateProgram.lines = .ok mateReached ∧
            reached.Renamed "R13" "12" mateReached ∧
            reached.symbols.next = mateReached.symbols.next := by
  intro lines
  have short : ∀ raw ∈ lines, Command.ShortIndex (cleanLine raw) := by
    intro raw member
    have brief : ∀ raw ∈ lines, (cleanLine raw).toList.length ≤ 100 := by decide
    exact Command.shortIndex_of_length ((brief raw member).trans (by decide))
  refine ⟨short, ?_⟩
  rcases script_name_is_label "R13" "12" .symbols lines short with
    ⟨first, others, rejected, _⟩ | ⟨program, mateProgram, compiled, mateCompiled, runs⟩
  · exact absurd rejected (by rintro ⟨⟩)
  · refine ⟨program, mateProgram, compiled, mateCompiled, ?_, runs⟩
    cases compiled
    cases mateCompiled
    decide

end StackCompiler
