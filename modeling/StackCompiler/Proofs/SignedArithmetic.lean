import StackCompiler.Proofs.HostStack

/-!
# Arithmetic as it is seen from outside

Integers of any size are cut to machine words when they are pushed, combined as
words by generated code, and read as signed numbers.  Seen from outside, this is
arithmetic on the integers themselves, cut to signed words at the end.
-/

namespace StackCompiler

/-- A signed word is the one number in its range that leaves the same remainder as
the integer it is cut from. -/
theorem toSigned_eq_iff {value word : Int} :
    toSigned value = word ↔
      -32768 ≤ word ∧ word ≤ 32767 ∧ word % 65536 = value % 65536 := by
  simp only [toSigned, wordSize, Int.bmod_def]
  omega

theorem toSigned_toWord (value : Int) : toSigned (toWord value) = toSigned value := by
  rw [toSigned_eq_iff]
  obtain ⟨low, high, same⟩ := toSigned_eq_iff.mp (rfl : toSigned value = toSigned value)
  refine ⟨low, high, same.trans ?_⟩
  simp only [toWord, wordSize]
  omega

theorem map_toSigned_toWord (values : List Int) :
    ((values.map toWord).map fun word : Nat => toSigned word) = values.map toSigned := by
  simp only [List.map_map, Function.comp_def, toSigned_toWord]

theorem toSigned_combine_plus (left right : Int) :
    toSigned (Machine.combine (toWord left) (toWord right) .plus) = toSigned (left + right) := by
  rw [Machine.combine, toSigned_toWord]
  simp only [toSigned, toWord, wordSize, Int.bmod_def]
  omega

theorem toSigned_combine_minus (left right : Int) :
    toSigned (Machine.combine (toWord left) (toWord right) .minus) = toSigned (left - right) := by
  rw [Machine.combine, toSigned_toWord]
  simp only [toSigned, toWord, wordSize, Int.bmod_def]
  omega

/-- Combining the two topmost words puts one word in their place. -/
theorem Memory.Stacks.combined {start memory : Memory} {base room : Nat} {words : List Nat}
    {left right : Nat} (held : Stacks start base room (words ++ [left, right]) memory)
    (inside : words.length + 2 ≤ room) (positive : 0 < base) (high : base + room ≤ 32768)
    (operator : Operator) :
    Stacks start base room (words ++ [Machine.combine left right operator])
      (memory.combined operator) := by
  have pointer := held.pointer
  simp only [List.length_append, List.length_cons, List.length_nil] at pointer
  have below : memory.below = base + words.length + 1 := by
    simp only [Memory.below, pointer, toWord, wordSize]
    omega
  have secondBelow : memory.secondBelow = base + words.length := by
    simp only [Memory.secondBelow, below, toWord, wordSize]
    omega
  have lowered : ∀ address : Int, memory.lowered.read address =
      if address = 0 then base + words.length + 1 else memory.read address := by
    intro address
    rw [Memory.lowered, below, read_write]
  have isLeft : memory.lowered.read (base + words.length : Nat) = left := by
    rw [lowered, if_neg (by omega), held.slots words.length (by simp)]
    simp
  have isRight : memory.lowered.read (base + words.length + 1 : Nat) = right := by
    rw [lowered, if_neg (by omega), Nat.add_assoc,
      held.slots (words.length + 1) (by simp)]
    simp
  have read : ∀ address : Int, (memory.combined operator).read address =
      if address = (base + words.length : Nat) then Machine.combine left right operator
      else if address = 0 then base + words.length + 1
      else memory.read address := by
    intro address
    rw [Memory.combined, secondBelow, below, isLeft, isRight, read_write, lowered]
  refine (held.truncated positive).concat (by omega) ?_ ?_ ?_ positive
  · rw [Memory.top, read, if_neg (by omega), if_pos rfl]
  · rw [read, if_pos rfl]
  · intro address notPointer notSlot
    rw [read, if_neg notSlot, if_neg notPointer, read_write_of_ne _ notPointer]

/-- What an arithmetic operation does to integers. -/
def Operation.onIntegers? : Operation → Option (Int → Int → Int)
  | add => some (· + ·)
  | sub => some (· - ·)
  | push | pop => none

/-- Every arithmetic operation has a block, and its operator does to words what
the operation does to integers. -/
theorem Operation.exists_arithmetic {operation : Operation} {apply : Int → Int → Int}
    (arithmetic : operation.onIntegers? = some apply) :
    ∃ operator, Codegen.arithmetic operation = .ok (Codegen.arithmeticBlock operator) ∧
      ∀ left right : Int,
        toSigned (Machine.combine (toWord left) (toWord right) operator) =
          toSigned (apply left right) := by
  cases operation with
  | add =>
      cases arithmetic
      exact ⟨.plus, rfl, toSigned_combine_plus⟩
  | sub =>
      cases arithmetic
      exact ⟨.minus, rfl, toSigned_combine_minus⟩
  | push | pop => cases arithmetic

namespace Machine

variable {machine : Machine} (standard : machine.symbols.Standard)

include standard

theorem exists_run_arithmeticBlock (operator : Operator) :
    ∃ reached, machine.run (Codegen.arithmeticBlock operator).lines = .ok reached ∧
      reached.memory = machine.memory.combined operator ∧
      reached.symbols = machine.symbols := by
  have tight : ∀ instruction ∈ Codegen.combineTop operator, instruction.IsTrim := by
    simp [Codegen.combineTop, Codegen.setMemory, Codegen.setAddress, Codegen.setData,
      Instruction.IsTrim, Address.stackPointer, Text.isBlank]
  obtain ⟨reached, executed, memory, symbols⟩ :=
    (yields_combineTop standard operator).exists_reached
  exact ⟨reached, run_block tight executed _, memory, symbols⟩

/-- The stack that is seen from outside holds the words as signed numbers. -/
theorem stack_eq {start : Memory} {base room : Nat} {words : List Nat}
    (held : Memory.Stacks start base room words machine.memory)
    (high : base + words.length < 32768) :
    (machine.stack base).1 = words.map fun word : Nat => toSigned word := by
  have low : machine.memory.top < 32768 := by
    rw [held.pointer]
    exact high
  have count : ((machine.memory.top : Int) - base).toNat = words.length := by
    rw [held.pointer]
    omega
  simp only [stack, read_stackPointer standard, toSigned_of_lt low, count]
  apply List.ext_getElem
  · simp
  · intro depth _ inside
    rw [List.length_map] at inside
    have slot := held.slots depth inside
    rw [Int.natCast_add] at slot
    simp [slot]

end Machine

/-- Addition and subtraction are signed arithmetic when seen from outside.  After
integers of any size were pushed and the two last of them were added or
subtracted, the stack shows the other integers and the result, each cut to a
signed word; the stack pointer is right behind them, and every other cell is as
it was before the pushes, but for the slot of the last integer. -/
theorem arithmetic_is_signed (operation : Operation) (apply : Int → Int → Int)
    (machine : Machine) (values : List Int) (left right : Int)
    (arithmetic : operation.onIntegers? = some apply)
    (standard : machine.symbols.Standard) (pointer : machine.memory.read 0 = 256)
    (fits : 256 + values.length + 2 ≤ 32767) :
    (∀ value word : Int, toSigned value = word ↔
      -32768 ≤ word ∧ word ≤ 32767 ∧ word % 65536 = value % 65536) ∧
    ∃ block reached, Codegen.arithmetic operation = .ok block ∧
      (machine.pushAll (values ++ [left, right])).run block.lines = .ok reached ∧
      (reached.stack Machine.stackBase).1 =
        values.map toSigned ++ [toSigned (apply left right)] ∧
      (reached.read Machine.stackPointer).1 = 256 + values.length + 1 ∧
      ∀ address : Int, address ≠ 0 →
        ¬ (256 ≤ address ∧ address ≤ 256 + values.length + 1) →
          reached.memory.read address = machine.memory.read address := by
  refine ⟨fun _ _ => toSigned_eq_iff, ?_⟩
  obtain ⟨operator, generated, meaning⟩ := operation.exists_arithmetic arithmetic
  have start := Memory.Stacks.nil machine.memory (values.length + 2)
  rw [show machine.memory.top = 256 from pointer] at start
  obtain ⟨memory, pushed, held⟩ := Machine.exists_pushAll_eq standard start
    (by simp : [].length + (values ++ [left, right]).length ≤ _) (by decide) (by omega)
  rw [List.nil_append, List.map_append, List.map_cons, List.map_cons, List.map_nil] at held
  let middle : Machine := { machine with memory := memory }
  have middleStandard : middle.symbols.Standard := standard
  obtain ⟨reached, ran, result, symbols⟩ :=
    Machine.exists_run_arithmeticBlock middleStandard operator
  have combined := held.combined (by simp) (by decide) (by omega) operator
  rw [show memory.combined operator = reached.memory from result.symm] at combined
  have reachedStandard : reached.symbols.Standard := symbols ▸ standard
  have top : reached.memory.top = 256 + values.length + 1 := by
    simpa [Nat.add_assoc] using combined.pointer
  refine ⟨_, reached, generated, pushed ▸ ran, ?_, ?_, ?_⟩
  · have shown := Machine.stack_eq reachedStandard combined (by simp; omega)
    have sameBase : Machine.stackBase = (256 : Nat) := rfl
    rw [sameBase, shown, List.map_append, map_toSigned_toWord, List.map_singleton, meaning]
  · rw [Machine.read_stackPointer reachedStandard, toSigned_of_lt (by omega), top]
    simp
  · intro address notPointer outside
    exact combined.frame address notPointer (by omega)

/-- A difference that leaves the signed range, of integers far outside it. -/
theorem arithmetic_is_signed_wrapping :
    let machine : Machine := ⟨Memory.empty.write 0 256, 4, 5, .initial, []⟩
    machine.symbols.Standard ∧
      ∃ block reached, Codegen.arithmetic .sub = .ok block ∧
        (machine.pushAll [65535, -32768, 100001]).run block.lines = .ok reached ∧
        (reached.stack Machine.stackBase).1 = [-1, -1697] ∧
        (reached.read Machine.stackPointer).1 = 258 := by
  intro machine
  have standard : machine.symbols.Standard := fun _ _ bound => bound
  obtain ⟨_, block, reached, generated, ran, shown, pointer, _⟩ :=
    arithmetic_is_signed .sub (· - ·) machine [65535] (-32768) 100001 rfl standard
      (by decide) (by decide)
  exact ⟨standard, block, reached, generated, ran, shown, pointer⟩

end StackCompiler
