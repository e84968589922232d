import StackCompiler.Proofs.PrintedCommand
import StackCompiler.Proofs.PushPop

/-!
# Values pushed from outside

Values can be put on the stack in two ways: the machine is written from outside,
or it runs code that pushes constants.  The first writes the stack slot and then
moves the stack pointer, which it reads as a signed number; the second moves the
pointer first and takes it for an unsigned one.  As long as the stack stays in
the lower half of the addresses and does not start at the stack pointer itself,
both end with the same memory.
-/

namespace StackCompiler

/-- A word in the lower half stands for itself as a signed number. -/
theorem toSigned_of_lt {word : Nat} (low : word < 32768) : toSigned word = word := by
  simp only [toSigned, wordSize, Int.bmod_def]
  omega

theorem toWord_of_lt {word : Nat} (low : word < wordSize) : toWord word = word := by
  simp only [toWord, wordSize] at *
  omega

namespace Memory

/-- Whether a memory holds words on a stack, from the lowest up, and is as it was
at the start outside the cells that are set aside for the stack. -/
structure Stacks (start : Memory) (base room : Nat) (words : List Nat)
    (memory : Memory) : Prop where
  /-- The stack pointer points behind the words. -/
  pointer : memory.top = base + words.length
  slots : ∀ (depth : Nat) (inside : depth < words.length),
    memory.read (base + depth : Nat) = words[depth]
  frame : ∀ address : Int, address ≠ 0 →
    address < base ∨ (base + room : Nat) ≤ address →
      memory.read address = start.read address

namespace Stacks

variable {start memory : Memory} {base room : Nat} {words : List Nat}

theorem nil (start : Memory) (room : Nat) : Stacks start start.top room [] start where
  pointer := rfl
  slots depth inside := absurd inside (Nat.not_lt_zero depth)
  frame _ _ _ := rfl

/-- A memory with one more word behind the others, and nothing else changed, holds
that word on top. -/
theorem concat {next : Memory} {word : Nat} (held : Stacks start base room words memory)
    (inside : words.length < room) (pointer : next.top = base + words.length + 1)
    (slot : next.read (base + words.length : Nat) = word)
    (others : ∀ address : Int, address ≠ 0 → address ≠ (base + words.length : Nat) →
      next.read address = memory.read address) (positive : 0 < base) :
    Stacks start base room (words ++ [word]) next where
  pointer := by
    rw [pointer, List.length_append, List.length_singleton, Nat.add_assoc]
  slots depth isSlot := by
    by_cases below : depth < words.length
    · rw [List.getElem_append_left below, others _ (by omega) (by omega)]
      exact held.slots depth below
    · have isTop : depth = words.length := by
        rw [List.length_append, List.length_singleton] at isSlot
        omega
      subst isTop
      rw [List.getElem_concat_length rfl]
      exact slot
  frame address notPointer outside := by
    rw [others address notPointer (by omega)]
    exact held.frame address notPointer outside

/-- With the stack pointer moved back, the words behind it no longer count. -/
theorem truncated {more : List Nat} (held : Stacks start base room (words ++ more) memory)
    (positive : 0 < base) :
    Stacks start base room words (memory.write 0 (base + words.length)) where
  pointer := read_write_same _ _ _
  slots depth inside := by
    have kept := held.slots depth (by rw [List.length_append]; omega)
    rw [List.getElem_append_left inside] at kept
    rw [read_write_of_ne _ (by omega), kept]
  frame address notPointer outside := by
    rw [read_write_of_ne _ notPointer]
    exact held.frame address notPointer outside

/-- The words fix all of the memory if they take up all the cells that were set
aside. -/
theorem read_eq {other : Memory} (held : Stacks start base words.length words memory)
    (same : Stacks start base words.length words other) (address : Int) :
    memory.read address = other.read address := by
  by_cases isPointer : address = 0
  · subst isPointer
    exact held.pointer.trans same.pointer.symm
  by_cases inside : (base : Int) ≤ address ∧ address < (base + words.length : Nat)
  · obtain ⟨depth, rfl⟩ : ∃ depth : Nat, address = (base + depth : Nat) :=
      ⟨(address - base).toNat, by omega⟩
    have isSlot : depth < words.length := by omega
    rw [held.slots depth isSlot, same.slots depth isSlot]
  · rw [held.frame address isPointer (by omega), same.frame address isPointer (by omega)]

/-- Generated code pushes a word. -/
theorem pushed (held : Stacks start base room words memory)
    (inside : words.length < room) (positive : 0 < base) (high : base + room ≤ 32768)
    (word : Nat) : Stacks start base room (words ++ [word]) (memory.pushed word) := by
  have pointer := held.pointer
  refine held.concat inside ?_ ?_ ?_ positive
  · rw [top_pushed (by omega), pointer]
    exact toWord_of_lt (by simp only [wordSize]; omega)
  · rw [Memory.pushed, pointer, read_write_same]
  · intro address notPointer notSlot
    rw [Memory.pushed, pointer, read_write_of_ne _ notSlot, read_write_of_ne _ notPointer]

end Stacks

end Memory

namespace Machine

variable {machine : Machine}

theorem read_stackPointer (standard : machine.symbols.Standard) :
    machine.read stackPointer = (toSigned machine.memory.top, machine) := by
  have bound : machine.symbols.lookup? "SP" = some 0 := standard "SP" 0 rfl
  simp only [read, stackPointer, locate, locateSymbol, SymbolTable.locate_of_bound bound]
  rfl

theorem write_stackPointer (standard : machine.symbols.Standard) (value : Int) :
    machine.write stackPointer value =
      { machine with memory := machine.memory.write 0 (toWord value) } := by
  have bound : machine.symbols.lookup? "SP" = some 0 := standard "SP" 0 rfl
  simp only [write, stackPointer, locate, locateSymbol, SymbolTable.locate_of_bound bound]
  rfl

/-- Pushing from outside writes the slot that the stack pointer points to, and
then moves the pointer. -/
theorem push_eq (standard : machine.symbols.Standard) (positive : 0 < machine.memory.top)
    (low : machine.memory.top < 32768) (value : Int) :
    machine.push value =
      { machine with
        memory := (machine.memory.write machine.memory.top (toWord value)).write 0
          (machine.memory.top + 1) } := by
  let written : Machine :=
    { machine with memory := machine.memory.write machine.memory.top (toWord value) }
  have sameTop : written.memory.top = machine.memory.top :=
    Memory.read_write_of_ne _ (by omega) _
  have raised : toWord ((machine.memory.top : Int) + 1) = machine.memory.top + 1 :=
    @toWord_of_lt (machine.memory.top + 1) (by simp only [wordSize]; omega)
  have isWritten : machine.write (.cell machine.memory.top) value = written := rfl
  simp only [push, read_stackPointer standard, toSigned_of_lt low, isWritten,
    @read_stackPointer written standard, sameTop, @write_stackPointer written standard,
    raised]
  rfl

section Loop

variable {start : Memory} {base room : Nat} {words : List Nat}

/-- Pushing one value from outside puts its word on the stack. -/
theorem exists_push_eq (standard : machine.symbols.Standard)
    (held : Memory.Stacks start base room words machine.memory)
    (inside : words.length < room) (positive : 0 < base) (high : base + room ≤ 32768)
    (value : Int) :
    ∃ memory, machine.push value = { machine with memory := memory } ∧
      Memory.Stacks start base room (words ++ [toWord value]) memory := by
  have pointer := held.pointer
  refine ⟨_, push_eq standard (by omega) (by omega) value, ?_⟩
  rw [pointer]
  refine held.concat inside ?_ ?_ ?_ positive
  · exact Memory.read_write_same _ _ _
  · rw [Memory.read_write_of_ne _ (by omega), Memory.read_write_same]
  · intro address notPointer notSlot
    rw [Memory.read_write_of_ne _ notPointer, Memory.read_write_of_ne _ notSlot]

/-- Pushing values from outside puts their words on the stack, in order. -/
theorem exists_pushAll_eq (standard : machine.symbols.Standard)
    (held : Memory.Stacks start base room words machine.memory) {values : List Int}
    (inside : words.length + values.length ≤ room) (positive : 0 < base)
    (high : base + room ≤ 32768) :
    ∃ memory, machine.pushAll values = { machine with memory := memory } ∧
      Memory.Stacks start base room (words ++ values.map toWord) memory := by
  induction values generalizing machine words with
  | nil => exact ⟨machine.memory, rfl, by simpa using held⟩
  | cons value values ih =>
      rw [List.length_cons] at inside
      obtain ⟨memory, pushed, oneMore⟩ :=
        exists_push_eq standard held (by omega) positive high value
      let middle : Machine := { machine with memory := memory }
      have middleStandard : middle.symbols.Standard := standard
      obtain ⟨last, pushedAll, all⟩ := ih middleStandard oneMore (by simp; omega)
      refine ⟨last, ?_, by simpa using all⟩
      change (machine.push value).pushAll values = _
      rw [pushed, pushedAll]

/-- Running the blocks of pushed constants puts the constants on the stack, in
order, and leaves the symbols. -/
theorem exists_run_pushes {script : String} {policy : StaticPolicy} {values : List Nat}
    {blocks : List Block}
    (generated : List.Forall₂
      (fun command block => Codegen.block script policy command = .ok block ∧
        ∀ index ∈ command.index?, index ≤ maxIndex)
      (values.map (Command.push .constant)) blocks)
    (standard : machine.symbols.Standard)
    (held : Memory.Stacks start base room words machine.memory)
    (inside : words.length + values.length ≤ room) (positive : 0 < base)
    (high : base + room ≤ 32768) :
    ∃ reached, machine.run (blocks.flatMap Block.lines) = .ok reached ∧
      reached.symbols = machine.symbols ∧
      Memory.Stacks start base room (words ++ values) reached.memory := by
  induction values generalizing machine words blocks with
  | nil =>
      cases generated
      exact ⟨machine, rfl, rfl, by simpa using held⟩
  | cons value values ih =>
      obtain _ | ⟨⟨isBlock, small⟩, others⟩ := generated
      rw [List.length_cons] at inside
      have pointer := held.pointer
      have low : machine.memory.top < wordSize := by
        simp only [wordSize]
        omega
      obtain ⟨address, data, ran⟩ := Codegen.exists_run_block isBlock small standard low
      let middle : Machine := ⟨machine.memory.pushed value, address, data,
        machine.symbols, machine.written ++ [0, machine.memory.top]⟩
      have oneMore : Memory.Stacks start base room (words ++ [value]) middle.memory :=
        held.pushed (by omega) positive high value
      have middleStandard : middle.symbols.Standard := standard
      obtain ⟨reached, reaches, symbols, all⟩ :=
        ih others middleStandard oneMore (by simp; omega)
      refine ⟨reached, ?_, symbols, by simpa using all⟩
      rw [List.flatMap_cons, run_append ran]
      exact reaches

end Loop

end Machine

section PrintedSource

variable {script : String} {policy : StaticPolicy} {commands : List Command}

theorem Command.print_ne_empty (command : Command) : command.print ≠ "" := by
  cases command <;> simp [print]

theorem cleanedLines_print (commands : List Command) :
    cleanedLines (commands.map Command.print) = commands.map Command.print := by
  have clean : (commands.map Command.print).map cleanLine = commands.map Command.print := by
    rw [List.map_map]
    exact List.map_congr_left fun command _ => command.cleanLine_print
  rw [cleanedLines, clean, List.filter_eq_self]
  intro line member
  obtain ⟨command, _, rfl⟩ := List.mem_map.mp member
  simpa using command.print_ne_empty

theorem sourceCommands_print
    (small : ∀ command ∈ commands, ∀ index ∈ command.index?, index ≤ maxIndex) :
    sourceCommands (commands.map Command.print) = commands := by
  have reads : ∀ command ∈ commands,
      (Command.parse command.print).toOption = some command := by
    intro command member
    rw [Command.parse_print (small command member)]
    rfl
  rw [sourceCommands, cleanedLines_print, List.filterMap_map]
  exact (List.filterMap_congr reads).trans List.filterMap_some

/-- A source of printed commands is compiled if each of them has code and an index
that can be loaded. -/
theorem exists_compile_print
    (small : ∀ command ∈ commands, ∀ index ∈ command.index?, index ≤ maxIndex)
    (generated : ∀ command ∈ commands,
      ∃ block, Codegen.block script policy command = .ok block) :
    ∃ program, compile script policy (commands.map Command.print) =
      .ok (.compiled program) := by
  have parses : ∀ line ∈ sourceLines (commands.map Command.print),
      ∃ command ∈ commands, Command.parse line.text = .ok command := by
    intro line member
    have isPrinted : line.text ∈ commands.map Command.print := by
      rw [← cleanedLines_print, ← sourceLines_map_text]
      exact List.mem_map_of_mem member
    obtain ⟨command, given, printed⟩ := List.mem_map.mp isPrinted
    exact ⟨command, given, printed ▸ Command.parse_print (small command given)⟩
  have sized : ∀ line ∈ sourceLines (commands.map Command.print), line.oversize? = none := by
    intro line member
    obtain ⟨command, _, parsed⟩ := parses line member
    rw [SourceLine.oversize?, parsed]
  obtain ⟨compilation, compiled, complaints, unprogrammed⟩ :=
    exists_compile_eq_ok script policy sized
  have none : compilation.complaints = [] := by
    rw [complaints, List.filterMap_eq_nil_iff]
    intro line member
    obtain ⟨command, given, parsed⟩ := parses line member
    obtain ⟨block, isBlock⟩ := generated command given
    simp [SourceLine.complaint?, compileLine, parsed, isBlock, Except.mapError]
  cases compilation with
  | compiled program => exact ⟨program, compiled⟩
  | rejected first others => cases none

end PrintedSource

/-- Pushing constants from outside and running the code that pushes them leave the
same memory, cell by cell, and both leave the symbols.  The stack may reach up to
the last cell with an address that is not negative as a signed number; what the
registers and the other cells hold does not matter. -/
theorem host_pushes_agree_with_code (script : String) (policy : StaticPolicy)
    (values : List Nat) (machine : Machine) (small : ∀ value ∈ values, value ≤ 32767)
    (standard : machine.symbols.Standard) (positive : 1 ≤ machine.memory.read 0)
    (high : machine.memory.read 0 + values.length ≤ 32768) :
    let pushed := machine.pushAll (values.map Int.ofNat)
    ∃ program reached,
      compile script policy (values.map fun value => "push constant " ++ toString value) =
        .ok (.compiled program) ∧
      machine.run program.lines = .ok reached ∧
      (∀ address : Int, pushed.memory.read address = reached.memory.read address) ∧
      pushed.symbols = machine.symbols ∧ reached.symbols = machine.symbols := by
  intro pushed
  let commands := values.map (Command.push .constant)
  have printed : values.map (fun value => "push constant " ++ toString value) =
      commands.map Command.print := by
    rw [List.map_map]
    rfl
  have loadable : ∀ command ∈ commands, ∀ index ∈ command.index?, index ≤ maxIndex := by
    intro command member index isIndex
    obtain ⟨value, given, rfl⟩ := List.mem_map.mp member
    cases isIndex
    exact small _ given
  have generated : ∀ command ∈ commands,
      ∃ block, Codegen.block script policy command = .ok block := by
    intro command member
    obtain ⟨value, _, rfl⟩ := List.mem_map.mp member
    exact ⟨_, rfl⟩
  have start := Memory.Stacks.nil machine.memory values.length
  obtain ⟨program, compiled⟩ := exists_compile_print loadable generated
  have blocks := forall₂_commands_of_compiled compiled
  rw [sourceCommands_print loadable] at blocks
  obtain ⟨reached, ran, symbols, byCode⟩ := Machine.exists_run_pushes blocks standard start
    (by simp) positive high
  obtain ⟨memory, pushedAll, byHost⟩ := Machine.exists_pushAll_eq standard start
    (by simp : [].length + (values.map Int.ofNat).length ≤ _) positive high
  have sameWord : ∀ value ∈ values, (toWord ∘ Int.ofNat) value = id value := fun value given =>
    toWord_of_lt (Nat.lt_of_le_of_lt (small value given) (by decide))
  have words : (values.map Int.ofNat).map toWord = values := by
    rw [List.map_map, List.map_congr_left sameWord, List.map_id]
  rw [words] at byHost
  have isPushed : pushed = { machine with memory := memory } := pushedAll
  refine ⟨program, reached, printed ▸ compiled, ran, ?_, ?_, symbols⟩
  · rw [isPushed]
    exact byHost.read_eq byCode
  · rw [isPushed]

/-- Two pushes that fill the last two cells of the lower half. -/
theorem host_pushes_agree_with_code_full :
    let machine : Machine := ⟨Memory.empty.write 0 32766, 5, 9, .initial, []⟩
    let pushed := machine.pushAll [32767, 0]
    machine.symbols.Standard ∧ pushed.memory.cells = [(0, 32768), (32766, 32767), (32767, 0)] ∧
      ∃ program reached,
        compile "Main" .symbols ["push constant 32767", "push constant 0"] =
          .ok (.compiled program) ∧
        machine.run program.lines = .ok reached ∧
        (∀ address : Int, pushed.memory.read address = reached.memory.read address) ∧
        pushed.symbols = machine.symbols ∧ reached.symbols = machine.symbols := by
  intro machine pushed
  have standard : machine.symbols.Standard := fun _ _ bound => bound
  have lines : ([32767, 0] : List Nat).map (fun value => "push constant " ++ toString value) =
      ["push constant 32767", "push constant 0"] := by
    decide
  refine ⟨standard, by decide +kernel, ?_⟩
  rw [← lines]
  exact host_pushes_agree_with_code "Main" .symbols [32767, 0] machine (by decide) standard
    (by decide) (by decide)

/-- One cell further up, the stack pointer is negative as a signed number, and a
value pushed from outside misses the stack. -/
example :
    let machine : Machine := ⟨Memory.empty.write 0 32768, 0, 0, .initial, []⟩
    (machine.push 7).memory.cells = [(-32768, 7), (0, 32769)] := by
  decide +kernel

end StackCompiler
