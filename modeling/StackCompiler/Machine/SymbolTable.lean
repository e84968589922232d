/-!
# Symbol tables

Symbols stand for memory cells.  Some are bound from the start; every other
symbol is bound to the next free cell when it is first met.
-/

namespace StackCompiler

/-- The cells of the symbols met so far. -/
structure SymbolTable where
  /-- The bound symbols, in the order in which they were bound. -/
  entries : List (String × Nat)
  next : Nat
  deriving DecidableEq, Repr

namespace SymbolTable

def predefined : List (String × Nat) :=
  [("SP", 0), ("LCL", 1), ("ARG", 2), ("THIS", 3), ("THAT", 4),
    ("R0", 0), ("R1", 1), ("R2", 2), ("R3", 3), ("R4", 4), ("R5", 5),
    ("R6", 6), ("R7", 7), ("R8", 8), ("R9", 9), ("R10", 10), ("R11", 11),
    ("R12", 12), ("R13", 13), ("R14", 14), ("R15", 15)]

def initial : SymbolTable := ⟨predefined, 16⟩

/-- The cell of a symbol, if it is bound. -/
def lookup? (table : SymbolTable) (symbol : String) : Option Nat :=
  table.entries.lookup symbol

/-- The cell of a symbol, which is bound to the next free cell if it was
unknown. -/
def locate (table : SymbolTable) (symbol : String) : Nat × SymbolTable :=
  match table.lookup? symbol with
  | some cell => (cell, table)
  | none =>
      (table.next, ⟨table.entries ++ [(symbol, table.next)], table.next + 1⟩)

theorem lookup?_locate (table : SymbolTable) (symbol : String) :
    (table.locate symbol).2.lookup? symbol = some (table.locate symbol).1 := by
  rw [locate]
  split
  · assumption
  · rename_i unbound
    rw [lookup?] at unbound
    rw [lookup?, List.lookup_append, unbound]
    simp

theorem lookup?_locate_of_bound {table : SymbolTable} {other : String}
    {cell : Nat} (bound : table.lookup? other = some cell) (symbol : String) :
    (table.locate symbol).2.lookup? other = some cell := by
  rw [locate]
  split
  · exact bound
  · rw [lookup?] at bound ⊢
    rw [List.lookup_append, bound]
    rfl

/-- The symbols bound since the start, sorted by name. -/
def boundSinceStart (table : SymbolTable) : List (String × Nat) :=
  (table.entries.filter fun (symbol, _) =>
    (predefined.lookup symbol).isNone).mergeSort fun left right =>
      decide (left.1 ≤ right.1)

end SymbolTable

end StackCompiler
