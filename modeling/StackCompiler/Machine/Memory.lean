/-!
# Machine memory

Memory maps addresses to values, and a cell that was never written holds zero.
The written cells are kept in increasing order of their addresses.  Addresses
may be negative, because a stack pointer is read as a signed number.  Values are
not: an instruction stores the value of a register or of a computation, and what
is stored from outside is cut to a machine word first.  Memory that holds a
negative value is not represented.
-/

namespace StackCompiler

/-- The number of values of a machine word. -/
def wordSize : Nat := 65536

/-- The machine word that a number is stored as. -/
def toWord (value : Int) : Nat :=
  (value % wordSize).toNat

/-- The signed number that a machine word stands for. -/
def toSigned (value : Int) : Int :=
  value.bmod wordSize

/-- The cells of a machine.  Only values from zero on occur in them. -/
structure Memory where
  /-- The written cells in increasing order of their addresses. -/
  cells : List (Int × Nat)
  deriving DecidableEq, Repr

namespace Memory

def empty : Memory := ⟨[]⟩

def read (memory : Memory) (address : Int) : Nat :=
  (memory.cells.lookup address).getD 0

/-- Put a value at an address, keeping the addresses in order. -/
def writeCells (address : Int) (value : Nat) :
    List (Int × Nat) → List (Int × Nat)
  | [] => [(address, value)]
  | (other, old) :: rest =>
      if address < other then (address, value) :: (other, old) :: rest
      else if address = other then (address, value) :: rest
      else (other, old) :: writeCells address value rest

def write (memory : Memory) (address : Int) (value : Nat) : Memory :=
  ⟨writeCells address value memory.cells⟩

@[simp]
theorem read_empty (address : Int) : empty.read address = 0 :=
  rfl

theorem lookup_writeCells_same (address : Int) (value : Nat)
    (cells : List (Int × Nat)) :
    (writeCells address value cells).lookup address = some value := by
  induction cells with
  | nil => simp [writeCells]
  | cons cell rest ih =>
      obtain ⟨other, old⟩ := cell
      rw [writeCells]
      split
      · simp
      · split
        · simp
        · rename_i different
          have unequal : (address == other) = false := by simpa using different
          simp [List.lookup_cons, unequal, ih]

theorem lookup_writeCells_of_ne {address other : Int} (different : other ≠ address)
    (value : Nat) (cells : List (Int × Nat)) :
    (writeCells address value cells).lookup other = cells.lookup other := by
  have unequal : (other == address) = false := by simpa using different
  induction cells with
  | nil => simp [writeCells, List.lookup_cons, unequal]
  | cons cell rest ih =>
      obtain ⟨stored, old⟩ := cell
      rw [writeCells]
      split
      · simp [List.lookup_cons, unequal]
      · split
        · rename_i same
          subst same
          simp [List.lookup_cons, unequal]
        · simp only [List.lookup_cons, ih]

@[simp]
theorem read_write_same (memory : Memory) (address : Int) (value : Nat) :
    (memory.write address value).read address = value := by
  simp [read, write, lookup_writeCells_same]

theorem read_write_of_ne (memory : Memory) {address other : Int}
    (different : other ≠ address) (value : Nat) :
    (memory.write address value).read other = memory.read other := by
  simp [read, write, lookup_writeCells_of_ne different]

end Memory

end StackCompiler
