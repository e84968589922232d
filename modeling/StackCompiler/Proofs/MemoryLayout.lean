import StackCompiler.Proofs.BlockEffect
import StackCompiler.Proofs.StackMachine

/-!
# The stack machine in the memory of the target

One memory of the target machine holds the stack pointer, the base registers,
the temporary cells, a scratch cell, the static cells in the order in which
they were met, the stack, and the heap.  This file lays them out, shows that
they do not overlap, and shows what each effect of generated code does to the
state that a memory holds.
-/

namespace StackCompiler

namespace StackMachine

/-- The address of a cell in the target machine.  Static cells are numbered in
the order in which they were met. -/
def Cell.address (indices : List Nat) : Cell → Nat
  | .base register => register.cell
  | .temp index => 5 + index
  | .static index => SymbolTable.firstFree + indices.idxOf index
  | .heap address => address.toNat

/-- Whether a cell has its place: a static cell has one once it was met, and a
heap cell has one at or above the limit. -/
def Cell.Live (limit : Nat) (indices : List Nat) : Cell → Prop
  | .base _ | .temp _ => True
  | .static index => index ∈ indices
  | .heap address => limit ≤ address.toNat

/-- Whether the static cells end before the stack starts, and the heap lies
behind that. -/
structure Room (limit : Nat) (indices : List Nat) : Prop where
  low : stackStart ≤ limit
  high : limit < wordSize
  statics : SymbolTable.firstFree + indices.length ≤ stackStart

/-- The addresses between which cells of a kind lie. -/
def Cell.region (limit : Nat) (indices : List Nat) : Cell → Nat × Nat
  | .base _ => (1, 5)
  | .temp _ => (5, 13)
  | .static _ => (16, 16 + indices.length)
  | .heap _ => (limit, wordSize)

section Layout

variable {limit : Nat} {indices : List Nat}

theorem Cell.Live.address_mem_region {cell : Cell}
    (live : cell.Live limit indices) :
    (cell.region limit indices).1 ≤ cell.address indices ∧
      cell.address indices < (cell.region limit indices).2 := by
  cases cell with
  | base register => cases register <;> simp [region, address, BaseRegister.cell]
  | temp index =>
      simp only [region, address]
      omega
  | static index =>
      have place := List.idxOf_lt_length_of_mem live
      simp only [region, address, SymbolTable.firstFree]
      omega
  | heap target => exact ⟨live, target.isLt⟩

theorem cell_injective {first second : BaseRegister}
    (same : first.cell = second.cell) : first = second := by
  revert same
  cases first <;> cases second <;> decide

/-- Different live cells have different addresses. -/
theorem Cell.address_injective (room : Room limit indices) {first second : Cell}
    (firstLive : first.Live limit indices) (secondLive : second.Live limit indices)
    (same : first.address indices = second.address indices) : first = second := by
  obtain ⟨low, _, statics⟩ := room
  have firstPlace := firstLive.address_mem_region
  have secondPlace := secondLive.address_mem_region
  rw [same] at firstPlace
  simp only [stackStart, SymbolTable.firstFree] at low statics
  cases first <;> cases second
  case base.base register other => rw [cell_injective same]
  case temp.temp index other => rw [Fin.ext (Nat.add_left_cancel same)]
  case static.static index other =>
    rw [(List.idxOf_inj firstLive).mp (Nat.add_left_cancel same)]
  case heap.heap target other => rw [BitVec.eq_of_toNat_eq same]
  -- Cells of different kinds lie in regions that do not overlap.
  all_goals
    simp only [region] at firstPlace secondPlace
    omega

/-- Live cells lie behind the stack pointer and before the scratch cell, or
among the static cells, or in the heap. -/
theorem Cell.Live.place {cell : Cell} (live : cell.Live limit indices) :
    (1 ≤ cell.address indices ∧ cell.address indices < 13) ∨
      (16 ≤ cell.address indices ∧ cell.address indices < 16 + indices.length) ∨
      (limit ≤ cell.address indices ∧ cell.address indices < wordSize) := by
  have place := live.address_mem_region
  cases cell <;> simp only [region] at place <;> omega

theorem Cell.Live.address_meet {cell : Cell} (live : cell.Live limit indices)
    (index : Nat) :
    cell.address (SymbolTable.meet indices index) = cell.address indices := by
  cases cell with
  | static other => rw [address, SymbolTable.idxOf_meet_of_mem live, address]
  | base | temp | heap => rfl

theorem Cell.Live.eq_static_of_meet {cell : Cell} {index : Nat}
    (live : cell.Live limit (SymbolTable.meet indices index))
    (wasNot : ¬ cell.Live limit indices) :
    cell = .static index ∧ index ∉ indices := by
  cases cell with
  | static other =>
      rcases SymbolTable.mem_meet.mp live with member | rfl
      · exact absurd member wasNot
      · exact ⟨rfl, wasNot⟩
  | base | temp | heap => exact absurd live wasNot

end Layout

/-- Whether a memory holds the words of a stack, topmost word first, each right
above the words below it. -/
def Stacked (memory : Memory) : List Word → Prop
  | [] => True
  | word :: below =>
      memory.read (stackStart + below.length : Nat) = word.toNat ∧
        Stacked memory below

theorem Stacked.write {memory : Memory} {words : List Word} {address : Int}
    (stacked : Stacked memory words)
    (outside : address < stackStart ∨ (stackStart + words.length : Nat) ≤ address)
    (value : Nat) : Stacked (memory.write address value) words := by
  induction words with
  | nil => trivial
  | cons word below ih =>
      rw [List.length_cons] at outside
      refine ⟨?_, ih stacked.2 (by omega)⟩
      rw [memory.read_write_of_ne (by omega)]
      exact stacked.1

/-- Whether a memory holds all of a state but its stack, with the static cells
in the order in which they were met, and agrees with the memory at the start
where the stack machine has nothing. -/
structure HoldsCells (start : Memory) (limit : Nat) (indices : List Nat)
    (state : StackMachine) (memory : Memory) : Prop where
  /-- Every live cell holds its word. -/
  cells : ∀ cell : Cell, cell.Live limit indices →
    memory.read (cell.address indices) = (state.read cell).toNat
  /-- A static cell that was not met is zero. -/
  unmet : ∀ index ∉ indices, state.statics index = 0
  /-- The cells between the static cells and the stack are zero. -/
  free : ∀ address : Nat, SymbolTable.firstFree + indices.length ≤ address →
    address < stackStart → memory.read address = 0
  /-- The two cells after the scratch cell, and whatever has no word as its
  address, are as they were. -/
  frame : ∀ address : Int,
    address < 0 ∨ address = 14 ∨ address = 15 ∨ wordSize ≤ address →
      memory.read address = start.read address

/-- Whether a memory holds a state of the stack machine. -/
structure Holds (start : Memory) (limit : Nat) (indices : List Nat)
    (state : StackMachine) (memory : Memory) : Prop
    extends HoldsCells start limit indices state memory where
  /-- The stack pointer points behind the stack. -/
  pointer : memory.read 0 = stackStart + state.stack.length
  /-- The stack ends before the limit. -/
  fits : stackStart + state.stack.length ≤ limit
  stack : Stacked memory state.stack

@[simp]
theorem read_setStack (state : StackMachine) (words : List Word) (cell : Cell) :
    { state with stack := words }.read cell = state.read cell := by
  cases cell <;> rfl

section Holds

variable {start memory : Memory} {limit : Nat} {indices : List Nat}
  {state : StackMachine}

theorem HoldsCells.setStack (holds : HoldsCells start limit indices state memory)
    (words : List Word) :
    HoldsCells start limit indices { state with stack := words } memory where
  cells cell live := by
    rw [read_setStack]
    exact holds.cells cell live
  unmet := holds.unmet
  free := holds.free
  frame := holds.frame

/-- The stack pointer, the scratch cell and the stack hold no cell. -/
theorem HoldsCells.write_unseen
    (holds : HoldsCells start limit indices state memory)
    (room : Room limit indices) {address : Int}
    (unseen : address = 0 ∨ address = 13 ∨ stackStart ≤ address ∧ address < limit)
    (value : Nat) :
    HoldsCells start limit indices state (memory.write address value) := by
  obtain ⟨low, high, statics⟩ := room
  simp only [stackStart, SymbolTable.firstFree, wordSize] at low high statics unseen
  refine ⟨?_, holds.unmet, ?_, ?_⟩
  · intro cell live
    have place := live.place
    rw [memory.read_write_of_ne (by omega)]
    exact holds.cells cell live
  · intro other above under
    simp only [stackStart, SymbolTable.firstFree] at above under
    rw [memory.read_write_of_ne (by omega)]
    exact holds.free other above under
  · intro other outside
    simp only [wordSize] at outside
    rw [memory.read_write_of_ne (by omega)]
    exact holds.frame other outside

theorem Holds.parked (holds : Holds start limit indices state memory)
    (room : Room limit indices) (target : Nat) :
    Holds start limit indices state (memory.parked target) where
  toHoldsCells := holds.toHoldsCells.write_unseen room (Or.inr (Or.inl rfl)) target
  pointer := by
    rw [Memory.parked, memory.read_write_of_ne (by decide)]
    exact holds.pointer
  fits := holds.fits
  stack := holds.stack.write (Or.inl (by decide)) target

theorem Holds.pushed (holds : Holds start limit indices state memory)
    (room : Room limit indices) (word : Word)
    (fits : stackStart + (state.stack.length + 1) ≤ limit) :
    Holds start limit indices { state with stack := word :: state.stack }
      (memory.pushed word.toNat) := by
  have high := room.high
  have top : memory.top = stackStart + state.stack.length := holds.pointer
  have raised : toWord ((memory.top : Int) + 1) =
      stackStart + (state.stack.length + 1) := by
    simp only [toWord, wordSize] at *
    omega
  rw [Memory.pushed, raised, top]
  refine ⟨?_, ?_, fits, ?_, ?_⟩
  · apply HoldsCells.setStack
    refine (holds.toHoldsCells.write_unseen room (Or.inl rfl) _).write_unseen room
      (Or.inr (Or.inr ?_)) _
    omega
  · rw [Memory.read_write_of_ne _ (by simp only [stackStart]; omega),
      Memory.read_write_same]
    rfl
  · exact Memory.read_write_same _ _ _
  · exact (holds.stack.write (Or.inl (by decide)) _).write (Or.inr (by omega)) _

/-- Moving the stack pointer down takes a word off the stack, which stays where
it was. -/
theorem Holds.lowered (holds : Holds start limit indices state memory)
    (room : Room limit indices) {word : Word} {rest : List Word}
    (stack : state.stack = word :: rest) :
    Holds start limit indices { state with stack := rest } memory.lowered ∧
      memory.below = stackStart + rest.length ∧
      memory.lowered.read memory.below = word.toNat := by
  obtain ⟨holdsCells, pointer, fits, stacked⟩ := holds
  have high := room.high
  rw [stack, List.length_cons] at pointer fits
  have below : memory.below = stackStart + rest.length := by
    simp only [Memory.below, Memory.top, toWord, wordSize] at *
    omega
  have kept : Stacked memory.lowered (word :: rest) := by
    rw [← stack]
    exact stacked.write (Or.inl (by decide)) _
  refine ⟨⟨?_, ?_, ?_, kept.2⟩, below, ?_⟩
  · exact (holdsCells.write_unseen room (Or.inl rfl) _).setStack rest
  · rw [Memory.lowered, Memory.read_write_same]
    exact below
  · exact Nat.le_of_succ_le fits
  · rw [below]
    exact kept.1

theorem Holds.replaceTop (holds : Holds start limit indices state memory)
    (room : Room limit indices) {old : Word} {rest : List Word}
    (stack : state.stack = old :: rest) (word : Word) :
    Holds start limit indices { state with stack := word :: rest }
      (memory.write (stackStart + rest.length : Nat) word.toNat) := by
  obtain ⟨holdsCells, pointer, fits, stacked⟩ := holds
  rw [stack, List.length_cons] at pointer fits
  rw [stack] at stacked
  refine ⟨?_, ?_, fits, ?_, ?_⟩
  · refine HoldsCells.setStack (holdsCells.write_unseen room ?_ _) _
    exact Or.inr (Or.inr (by omega))
  · rw [memory.read_write_of_ne (by simp only [stackStart]; omega)]
    exact pointer
  · exact memory.read_write_same _ _
  · exact stacked.2.write (Or.inr (Int.le_refl _)) _

theorem Holds.combined (holds : Holds start limit indices state memory)
    (room : Room limit indices) {left right : Word} {rest : List Word}
    (stack : state.stack = right :: left :: rest) {operator : Operator}
    {operation : Word → Word → Word}
    (agrees : Machine.combine left.toNat right.toNat operator =
      (operation left right).toNat) :
    Holds start limit indices { state with stack := operation left right :: rest }
      (memory.combined operator) := by
  obtain ⟨lowered, below, rightRead⟩ := holds.lowered room stack
  have high := room.high
  have fits := lowered.fits
  simp only [List.length_cons] at below fits
  have secondBelow : memory.secondBelow = stackStart + rest.length := by
    simp only [Memory.secondBelow, toWord, wordSize] at *
    omega
  have leftRead : memory.lowered.read memory.secondBelow = left.toNat := by
    rw [secondBelow]
    exact lowered.stack.1
  rw [Memory.combined, leftRead, rightRead, agrees, secondBelow]
  exact lowered.replaceTop room rfl (operation left right)

theorem Holds.write (holds : Holds start limit indices state memory)
    (room : Room limit indices) {cell : Cell} (live : cell.Live limit indices)
    (word : Word) :
    Holds start limit indices (state.write cell word)
      (memory.write (cell.address indices) word.toNat) := by
  have place := live.place
  obtain ⟨⟨cells, unmet, free, frame⟩, pointer, fits, stacked⟩ := holds
  have ⟨low, high, statics⟩ := room
  simp only [stackStart, SymbolTable.firstFree, wordSize] at low high statics place
  refine ⟨⟨?_, ?_, ?_, ?_⟩, ?_, ?_, ?_⟩
  · intro other otherLive
    rw [read_write, Memory.read_write]
    by_cases same : other = cell
    · rw [if_pos same, if_pos (by rw [same])]
    · have apart : other.address indices ≠ cell.address indices :=
        fun equal => same (Cell.address_injective room otherLive live equal)
      rw [if_neg same, if_neg (by exact_mod_cast apart)]
      exact cells other otherLive
  · intro index unmetIndex
    have apart : Cell.static index ≠ cell := by
      rintro rfl
      exact unmetIndex live
    have kept := state.read_write cell (.static index) word
    rw [if_neg apart] at kept
    exact kept.trans (unmet index unmetIndex)
  · intro other above under
    rw [memory.read_write_of_ne]
    · exact free other above under
    · simp only [stackStart, SymbolTable.firstFree] at above under
      omega
  · intro other outside
    rw [memory.read_write_of_ne]
    · exact frame other outside
    · simp only [wordSize] at outside
      omega
  · rw [memory.read_write_of_ne (by omega), stack_write]
    exact pointer
  · rw [stack_write]
    exact fits
  · rw [stack_write]
    apply stacked.write
    simp only [stackStart] at fits ⊢
    omega

theorem Holds.popped (holds : Holds start limit indices state memory)
    (room : Room limit indices) {word : Word} {rest : List Word}
    (stack : state.stack = word :: rest) {cell : Cell}
    (live : cell.Live limit indices) :
    Holds start limit indices ({ state with stack := rest }.write cell word)
      (memory.popped (cell.address indices)) := by
  obtain ⟨lowered, _, wordRead⟩ := holds.lowered room stack
  rw [Memory.popped, wordRead]
  exact lowered.write room live word

/-- Meeting one more static index gives it a cell, which was zero before. -/
theorem Holds.meet (holds : Holds start limit indices state memory) (index : Nat)
    (room : Room limit (SymbolTable.meet indices index)) :
    Holds start limit (SymbolTable.meet indices index) state memory := by
  have statics := room.statics
  have grows : indices.length ≤ (SymbolTable.meet indices index).length :=
    SymbolTable.length_le_meet indices index
  refine ⟨⟨?_, ?_, ?_, holds.frame⟩, holds.pointer, holds.fits, holds.stack⟩
  · intro cell live
    by_cases wasLive : cell.Live limit indices
    · rw [wasLive.address_meet]
      exact holds.cells cell wasLive
    · obtain ⟨rfl, unmet⟩ := live.eq_static_of_meet wasLive
      rw [SymbolTable.meet, if_neg unmet, List.length_append,
        List.length_singleton] at statics
      rw [Cell.address, SymbolTable.meet, if_neg unmet,
        List.idxOf_append_of_notMem unmet, List.idxOf_cons_self, Nat.add_zero,
        holds.free _ (Nat.le_refl _) (by omega)]
      exact congrArg BitVec.toNat (holds.unmet index unmet).symm
  · intro other unmet
    refine holds.unmet other fun member => unmet ?_
    exact SymbolTable.mem_meet.mpr (Or.inl member)
  · intro address above under
    exact holds.free address (by omega) under

end Holds

end StackMachine

end StackCompiler
