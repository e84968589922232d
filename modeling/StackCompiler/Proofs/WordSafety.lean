import StackCompiler.Proofs.BlockEffect
import StackCompiler.Proofs.CompilationExact

/-!
# Generated code runs and stays within machine words

Every line of generated code has one of a few forms, and each of them executes
on every machine.  A loaded number is not cut to a machine word, so that
registers and memory keep to words only because indices are bounded and because
there are not enough indices for the static symbols to use up the cells.
-/

namespace StackCompiler

open SymbolTable

/-- The forms of the lines of generated code. -/
inductive CodeLine (script : String) : String → Prop
  | comment (text : String) : CodeLine script ("// " ++ text)
  | number {number : Nat} :
      number ≤ maxIndex → CodeLine script ("@" ++ toString number)
  | cell {name : String} :
      name ∈ Address.reserved → CodeLine script ("@" ++ name)
  | static {index : Nat} :
      index ≤ maxIndex → CodeLine script ("@" ++ Address.staticSymbol script index)
  | compute {text : String} {destination : Destination}
      {computation : Computation} :
      Instruction.parse text = .ok (.compute destination computation) →
        CodeLine script text

theorem Instruction.Emitted.codeLine {script : String} {instruction : Instruction}
    (emitted : instruction.Emitted script) :
    CodeLine script instruction.render := by
  cases emitted with
  | number small => exact .number small
  | cell reserved => exact .cell reserved
  | static small => exact .static small
  | compute destination computation => exact .compute (Instruction.parse_render _)

theorem line_of_compiled {script : String} {policy : StaticPolicy}
    {lines : List String} {program : Program}
    (accepted : compile script policy lines = .ok (.compiled program))
    {line : String} (member : line ∈ program.lines) : EmittedLine script line := by
  obtain ⟨block, blockMember, inBlock⟩ := List.mem_flatMap.mp member
  obtain ⟨place, inside, rfl⟩ := List.mem_iff_getElem.mp blockMember
  have blocks := forall₂_commands_of_compiled accepted
  have ⟨generated, small⟩ := blocks.get (blocks.length_eq ▸ inside) inside
  obtain ⟨comment, instructions, isBlock, emits⟩ := Codegen.emits_of_block generated
  rw [List.get_eq_getElem] at isBlock
  rw [isBlock] at inBlock
  rcases List.mem_cons.mp inBlock with rfl | inBody
  · exact Or.inl ⟨comment, rfl⟩
  · obtain ⟨instruction, isInstruction, rfl⟩ := List.mem_map.mp inBody
    exact Or.inr ⟨instruction, emits.emitted small instruction isInstruction, rfl⟩

/-- Different indices below the bound leave room for their symbols. -/
theorem firstFree_add_length_lt {indices : List Nat} (distinct : indices.Nodup)
    (small : ∀ index ∈ indices, index ≤ maxIndex) :
    firstFree + indices.length < wordSize := by
  have within : indices ⊆ List.range (maxIndex + 1) := fun index member =>
    List.mem_range.mpr (Nat.lt_succ_of_le (small index member))
  have count := distinct.length_le_of_subset within
  rw [List.length_range] at count
  simp only [firstFree, maxIndex, wordSize] at *
  omega

namespace Machine

section Words

variable {machine : Machine}

theorem WordSized.operandValue_lt (sized : machine.WordSized) (operand : Operand) :
    machine.operandValue operand < wordSize := by
  cases operand with
  | address => exact sized.address
  | data => exact sized.data
  | memory => exact sized.memory _
  | zero => exact (by decide : 0 < wordSize)
  | one => exact (by decide : 1 < wordSize)

theorem combine_lt {left right : Nat} (leftSmall : left < wordSize)
    (rightSmall : right < wordSize) (operator : Operator) :
    combine left right operator < wordSize := by
  cases operator with
  | plus => exact toWord_lt _
  | minus => exact toWord_lt _
  | conjunction => exact Nat.lt_of_le_of_lt Nat.and_le_left leftSmall
  | disjunction =>
      have power : wordSize = 2 ^ 16 := rfl
      rw [power] at leftSmall rightSmall ⊢
      exact Nat.or_lt_two_pow leftSmall rightSmall

theorem WordSized.computeValue_lt (sized : machine.WordSized)
    (computation : Computation) : machine.computeValue computation < wordSize := by
  cases computation with
  | copy operand => exact sized.operandValue_lt operand
  | negate operand => exact toWord_lt _
  | complement operand => exact toWord_lt _
  | combine left operator right =>
      exact combine_lt (sized.operandValue_lt left) (sized.operandValue_lt right)
        operator

theorem WordSized.store (sized : machine.WordSized) (destination : Destination)
    {value : Nat} (small : value < wordSize) :
    (machine.store destination value).WordSized := by
  refine ⟨?_, ?_, fun address => ?_⟩
  · simp only [Machine.store]
    split
    · exact small
    · exact sized.address
  · simp only [Machine.store]
    split
    · exact small
    · exact sized.data
  · simp only [Machine.store]
    split
    · rw [Memory.read_write]
      split
      · exact small
      · exact sized.memory address
    · exact sized.memory address

theorem WordSized.setAddress (sized : machine.WordSized) {address : Nat}
    (small : address < wordSize) (symbols : SymbolTable) :
    WordSized { machine with address, symbols } :=
  ⟨small, sized.data, sized.memory⟩

end Words

/-- What every machine keeps to while the code of a script runs: words
everywhere, static symbols with bounded indices only, and a log that grew by
words. -/
structure InBounds (script : String) (log : List Nat) (machine : Machine) : Prop
    extends WordSized machine where
  statics : ∃ indices : List Nat, indices.Nodup ∧
    (∀ index ∈ indices, index ≤ maxIndex) ∧
    machine.symbols = withStatics script indices
  written : ∃ cells, machine.written = log ++ cells ∧ ∀ cell ∈ cells, cell < wordSize

section Runs

variable {script : String} {log : List Nat} {machine : Machine}

theorem InBounds.standard (inBounds : InBounds script log machine) :
    machine.symbols.Standard := by
  obtain ⟨indices, _, _, table⟩ := inBounds.statics
  rw [table]
  exact withStatics_standard script indices

theorem InBounds.store (inBounds : InBounds script log machine)
    (destination : Destination) {value : Nat} (small : value < wordSize) :
    InBounds script log (machine.store destination value) where
  toWordSized := inBounds.toWordSized.store destination small
  statics := inBounds.statics
  written := by
    obtain ⟨cells, logged, words⟩ := inBounds.written
    simp only [Machine.store]
    split
    · refine ⟨cells ++ [machine.address], by rw [logged, List.append_assoc], ?_⟩
      rw [List.forall_mem_append, List.forall_mem_singleton]
      exact ⟨words, inBounds.address⟩
    · exact ⟨cells, logged, words⟩

/-- Every emitted instruction executes and keeps to the bounds. -/
theorem InBounds.execute (inBounds : InBounds script log machine)
    {instruction : Instruction} (emitted : instruction.Emitted script) :
    ∃ next, machine.execute instruction = .ok next ∧ InBounds script log next := by
  obtain ⟨sized, statics, written⟩ := inBounds
  cases emitted with
  | @number number small =>
      have bound : number < wordSize := Nat.lt_of_le_of_lt small (by decide)
      exact ⟨_, machine.load_number small, sized.setAddress bound _, statics, written⟩
  | cell reserved =>
      obtain ⟨cell, low, bound⟩ := lookup_of_reserved reserved
      have standard := InBounds.standard ⟨sized, statics, written⟩
      exact ⟨_, machine.load_predefined standard bound,
        sized.setAddress (Nat.lt_trans low (by decide)) _, statics, written⟩
  | @static index small =>
      obtain ⟨indices, distinct, bounded, table⟩ := statics
      have loads := machine.load_staticSymbol script index
      simp only [table, locate_withStatics] at loads
      have metDistinct := meet_nodup distinct index
      have metBounded : ∀ other ∈ meet indices index, other ≤ maxIndex := by
        intro other member
        rcases mem_meet.mp member with member | rfl
        · exact bounded other member
        · exact small
      have place := List.idxOf_lt_length_of_mem (mem_meet.mpr (Or.inr rfl) :
        index ∈ meet indices index)
      have room := firstFree_add_length_lt metDistinct metBounded
      refine ⟨_, loads, sized.setAddress (by omega) _, ?_, written⟩
      exact ⟨meet indices index, metDistinct, metBounded, rfl⟩
  | compute destination computation =>
      have stored := InBounds.store ⟨sized, statics, written⟩ destination
        (sized.computeValue_lt computation)
      exact ⟨_, rfl, stored⟩

/-- Comments and emitted instructions run and keep to the bounds. -/
theorem InBounds.run (inBounds : InBounds script log machine) {code : List String}
    (forms : ∀ line ∈ code, EmittedLine script line) :
    ∃ reached, machine.run code = .ok reached ∧ InBounds script log reached :=
  run_emittedLines (fun _ _ kept emitted => kept.execute emitted) machine inBounds forms

end Runs

end Machine

/-- Generated code never gets stuck and never leaves the machine words.  Each of
its lines has one of the known forms.  On a machine that has bound no symbol
and holds words only, it runs without fault, and after every number of lines
registers and memory hold words and all cells written so far are words. -/
theorem compiled_run_inBounds (script : String) (policy : StaticPolicy)
    (lines : List String) (program : Program) (machine : Machine)
    (accepted : compile script policy lines = .ok (.compiled program))
    (symbols : machine.symbols = .initial) (sized : machine.WordSized) :
    (∀ line ∈ program.lines, CodeLine script line) ∧
      ∀ front rest, program.lines = front ++ rest →
        ∃ reached, machine.run front = .ok reached ∧ reached.WordSized ∧
          ∃ cells, reached.written = machine.written ++ cells ∧
            ∀ cell ∈ cells, cell < wordSize := by
  refine ⟨?_, ?_⟩
  · intro line member
    rcases line_of_compiled accepted member with ⟨text, rfl⟩ | ⟨instruction, emitted, rfl⟩
    · exact .comment text
    · exact emitted.codeLine
  · intro front rest split
    have start : machine.InBounds script machine.written :=
      ⟨sized, ⟨[], List.nodup_nil, by simp, symbols⟩, [], by simp, by simp⟩
    have forms := fun line (member : line ∈ front) =>
      line_of_compiled accepted (split ▸ List.mem_append_left rest member)
    obtain ⟨reached, ran, inBounds⟩ := start.run forms
    exact ⟨reached, ran, inBounds.toWordSized, inBounds.written⟩

/-- A script whose name looks like a number, the last static index, and a stack
pointer and a base register at the last word. -/
theorem compiled_run_inBounds_last :
    let lines := ["push static 32767", "pop that 32767", "sub"]
    let machine : Machine := ⟨(Memory.empty.write 0 65535).write 4 65535,
      65535, 65535, .initial, []⟩
    ∃ program, compile " 12 " .symbols lines = .ok (.compiled program) ∧
      machine.WordSized ∧
      (∀ line ∈ program.lines, CodeLine " 12 " line) ∧
      ∀ front rest, program.lines = front ++ rest →
        ∃ reached, machine.run front = .ok reached ∧ reached.WordSized ∧
          ∃ cells, reached.written = machine.written ++ cells ∧
            ∀ cell ∈ cells, cell < wordSize := by
  intro lines machine
  have accepted : ∃ program, compile " 12 " .symbols lines = .ok (.compiled program) :=
    ⟨_, rfl⟩
  have sized : machine.WordSized := by
    refine ⟨by decide, by decide, fun address => ?_⟩
    simp only [machine, Memory.read_write, Memory.read_empty]
    split
    · decide
    · split <;> decide
  obtain ⟨program, compiled⟩ := accepted
  exact ⟨program, compiled, sized,
    compiled_run_inBounds " 12 " .symbols lines program machine compiled rfl sized⟩

end StackCompiler
