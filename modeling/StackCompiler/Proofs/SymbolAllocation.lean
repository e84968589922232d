import StackCompiler.Proofs.StaticTable

/-!
# Allocation of symbols

Whatever is done to a machine, its symbol table changes in one way only: names
are located, and an unknown name is bound to the next free cell.  Every fact
about the tables of a machine's history is therefore a fact about locating one
name.  The predefined symbols keep their cells, all other names share the cells
from the first free one upwards without gaps or overlaps, and no binding is
ever replaced.
-/

namespace StackCompiler

namespace SymbolTable

theorem lookup?_locate_of_ne (table : SymbolTable) {symbol other : String}
    (different : other ≠ symbol) :
    (table.locate symbol).2.lookup? other = table.lookup? other := by
  cases known : table.lookup? symbol with
  | some cell => rw [locate_of_bound known]
  | none =>
      have unequal : (other == symbol) = false := by simpa using different
      rw [locate_of_unbound known, lookup?, List.lookup_append, List.lookup_cons,
        unequal, List.lookup_nil, Option.or_none]
      rfl

/-- The names outside the predefined ones that stand for a cell. -/
def Allots (table : SymbolTable) (cell : Nat) (name : String) : Prop :=
  predefined.lookup name = none ∧ table.lookup? name = some cell

/-- Whether the predefined symbols stand for their cells, and the other bound
names correspond one to one to the cells from the first free one up to the next
free one. -/
structure Allocated (table : SymbolTable) : Prop where
  standard : table.Standard
  started : firstFree ≤ table.next
  range : ∀ cell name, table.Allots cell name → firstFree ≤ cell ∧ cell < table.next
  owner : ∀ cell, firstFree ≤ cell → cell < table.next → ∃! name, table.Allots cell name

theorem allocated_initial : initial.Allocated where
  standard _ _ bound := bound
  started := Nat.le_refl _
  range cell name allots := by
    obtain ⟨free, bound⟩ := allots
    rw [lookup?, initial, free] at bound
    cases bound
  owner cell low high := absurd high (Nat.not_lt.mpr low)

/-- A cell that was given to a name is not given to another one. -/
theorem Allocated.name_unique {table : SymbolTable} (allocated : table.Allocated)
    {cell : Nat} {first second : String} (firstAllots : table.Allots cell first)
    (secondAllots : table.Allots cell second) : first = second := by
  obtain ⟨low, high⟩ := allocated.range cell first firstAllots
  exact (allocated.owner cell low high).unique firstAllots secondAllots

section NewName

variable {table : SymbolTable} {symbol : String}

theorem allots_locate_iff (unbound : table.lookup? symbol = none)
    (free : predefined.lookup symbol = none) {cell : Nat} {name : String} :
    (table.locate symbol).2.Allots cell name ↔
      table.Allots cell name ∨ name = symbol ∧ cell = table.next := by
  have found : (table.locate symbol).1 = table.next := by
    rw [locate_of_unbound unbound]
  by_cases same : name = symbol
  · subst same
    rw [Allots, lookup?_locate, found, Allots, unbound]
    simp [free, eq_comm]
  · rw [Allots, lookup?_locate_of_ne table same, Allots]
    simp [same]

/-- Binding an unknown name gives it the one cell that the table grows by. -/
theorem Allocated.locate_unbound (allocated : table.Allocated)
    (unbound : table.lookup? symbol = none) : (table.locate symbol).2.Allocated := by
  have free : predefined.lookup symbol = none := by
    rw [Option.eq_none_iff_forall_ne_some]
    intro cell bound
    rw [allocated.standard symbol cell bound] at unbound
    cases unbound
  have grown : (table.locate symbol).2.next = table.next + 1 := by
    rw [locate_of_unbound unbound]
  have allots := @allots_locate_iff table symbol unbound free
  constructor
  · intro name cell bound
    exact lookup?_locate_of_bound (allocated.standard name cell bound) symbol
  · rw [grown]
    exact Nat.le_succ_of_le allocated.started
  · intro cell name allotted
    rw [grown]
    rcases allots.mp allotted with older | ⟨_, rfl⟩
    · obtain ⟨low, high⟩ := allocated.range cell name older
      exact ⟨low, Nat.lt_succ_of_lt high⟩
    · exact ⟨allocated.started, Nat.lt_succ_self _⟩
  · intro cell low high
    rw [grown] at high
    rcases Nat.lt_succ_iff_lt_or_eq.mp high with older | rfl
    · obtain ⟨name, owns, unique⟩ := allocated.owner cell low older
      refine ⟨name, allots.mpr (Or.inl owns), ?_⟩
      intro other otherAllots
      rcases allots.mp otherAllots with otherOwns | ⟨_, isNext⟩
      · exact unique other otherOwns
      · exact absurd isNext (Nat.ne_of_lt older)
    · refine ⟨symbol, allots.mpr (Or.inr ⟨rfl, rfl⟩), ?_⟩
      intro other otherAllots
      rcases allots.mp otherAllots with otherOwns | ⟨isSymbol, _⟩
      · have below := (allocated.range table.next other otherOwns).2
        exact absurd below (Nat.lt_irrefl _)
      · exact isSymbol

end NewName

theorem Allocated.locate {table : SymbolTable} (allocated : table.Allocated)
    (symbol : String) : (table.locate symbol).2.Allocated := by
  cases known : table.lookup? symbol with
  | none => exact allocated.locate_unbound known
  | some cell =>
      rw [locate_of_bound known]
      exact allocated

/-- Whether one table becomes another by locating names. -/
inductive Grows : SymbolTable → SymbolTable → Prop
  | refl (table : SymbolTable) : Grows table table
  | locate {table later : SymbolTable} (symbol : String) :
      Grows (table.locate symbol).2 later → Grows table later

namespace Grows

variable {table middle later : SymbolTable}

theorem one (table : SymbolTable) (symbol : String) :
    Grows table (table.locate symbol).2 :=
  locate symbol (refl _)

theorem trans (first : Grows table middle) (second : Grows middle later) :
    Grows table later := by
  induction first with
  | refl => exact second
  | locate symbol _ ih => exact locate symbol (ih second)

theorem allocated (grows : Grows table later) (start : table.Allocated) :
    later.Allocated := by
  induction grows with
  | refl => exact start
  | locate symbol _ ih => exact ih (start.locate symbol)

theorem lookup? (grows : Grows table later) {name : String} {cell : Nat}
    (bound : table.lookup? name = some cell) : later.lookup? name = some cell := by
  induction grows with
  | refl => exact bound
  | locate symbol _ ih => exact ih (lookup?_locate_of_bound bound symbol)

end Grows

end SymbolTable

namespace Machine

open SymbolTable

/-- What can be done to a machine from outside. -/
inductive Action where
  | read (location : Location)
  | write (location : Location) (value : Int)
  | push (values : List Int)
  | stack (base : Int)
  | step (text : String)
  | run (lines : List String)
  deriving DecidableEq, Repr

/-- The machine after something was done to it.  A step that fails leaves it as
it was, and a run that fails leaves it as it was reached. -/
def perform (machine : Machine) : Action → Machine
  | .read location => (machine.read location).2
  | .write location value => machine.write location value
  | .push values => machine.pushAll values
  | .stack base => (machine.stack base).2
  | .step text =>
      match machine.step text with
      | .ok next => next
      | .error _ => machine
  | .run lines =>
      match machine.run lines with
      | .ok reached => reached
      | .error halt => halt.machine

def performAll (machine : Machine) (actions : List Action) : Machine :=
  actions.foldl perform machine

theorem performAll_append (machine : Machine) (first second : List Action) :
    machine.performAll (first ++ second) =
      (machine.performAll first).performAll second :=
  List.foldl_append

theorem read_grows (machine : Machine) (location : Location) :
    Grows machine.symbols (machine.read location).2.symbols := by
  cases location with
  | cell address => exact .refl _
  | symbol name => exact .one _ name

theorem write_grows (machine : Machine) (location : Location) (value : Int) :
    Grows machine.symbols (machine.write location value).symbols := by
  cases location with
  | cell address => exact .refl _
  | symbol name => exact .one _ name

theorem push_grows (machine : Machine) (value : Int) :
    Grows machine.symbols (machine.push value).symbols := by
  simp only [push]
  refine (machine.read_grows stackPointer).trans ?_
  refine (write_grows _ (.cell (machine.read stackPointer).1) value).trans ?_
  exact (read_grows _ stackPointer).trans (write_grows _ _ _)

theorem pushAll_grows (machine : Machine) (values : List Int) :
    Grows machine.symbols (machine.pushAll values).symbols := by
  induction values generalizing machine with
  | nil => exact .refl _
  | cons value rest ih => exact (machine.push_grows value).trans (ih _)

theorem load_grows {machine next : Machine} {symbol : String}
    (loaded : machine.load symbol = .ok next) :
    Grows machine.symbols next.symbols := by
  rw [load] at loaded
  split at loaded
  · split at loaded
    · cases loaded
      exact .refl _
    · cases loaded
  · cases loaded
    exact .one _ symbol

theorem step_grows {machine next : Machine} {text : String}
    (stepped : machine.step text = .ok next) :
    Grows machine.symbols next.symbols := by
  rw [step] at stepped
  split at stepped
  · cases stepped
  · rename_i instruction _
    cases instruction with
    | load symbol => exact load_grows stepped
    | compute destination computation =>
        cases stepped
        exact .refl _

/-- A run locates names only, whether it ends at a fault or not. -/
theorem run_grows (machine : Machine) (lines : List String) :
    Grows machine.symbols (machine.perform (.run lines)).symbols := by
  simp only [perform]
  fun_induction run machine lines with
  | case1 => exact .refl _
  | case2 machine line rest skipped ih => exact ih
  | case3 => exact .refl _
  | case4 machine line rest text found next stepped ih =>
      exact (step_grows stepped).trans ih

theorem grows_of_run {machine reached : Machine} {lines : List String}
    (ran : machine.run lines = .ok reached) :
    Grows machine.symbols reached.symbols := by
  have grows := machine.run_grows lines
  rw [perform, ran] at grows
  exact grows

theorem perform_grows (machine : Machine) (action : Action) :
    Grows machine.symbols (machine.perform action).symbols := by
  cases action with
  | read location => exact machine.read_grows location
  | write location value => exact machine.write_grows location value
  | push values => exact machine.pushAll_grows values
  | stack base => exact machine.read_grows stackPointer
  | run lines => exact machine.run_grows lines
  | step text =>
      rw [perform]
      split
      next stepped => exact step_grows stepped
      next => exact .refl _

/-- Whatever is done to a machine, its symbol table grows by located names. -/
theorem performAll_grows (machine : Machine) (actions : List Action) :
    Grows machine.symbols (machine.performAll actions).symbols := by
  induction actions generalizing machine with
  | nil => exact .refl _
  | cons action rest ih => exact (machine.perform_grows action).trans (ih _)

end Machine

end StackCompiler
