import Mathlib.Data.List.Dedup
import StackCompiler.Proofs.Loading

/-!
# Symbol tables of a running script

While the code of one script runs, every symbol that the machine binds is a
static symbol of that script.  The table is then determined by the list of
static indices in the order in which they were first met.  This file describes
that table and shows that meeting one more static symbol keeps the description.
-/

namespace StackCompiler

namespace SymbolTable

/-- Whether every predefined symbol still stands for its cell. -/
def Standard (table : SymbolTable) : Prop :=
  ∀ name cell, predefined.lookup name = some cell →
    table.lookup? name = some cell

/-- Generated code names fixed cells among the first sixteen. -/
theorem lookup_of_reserved {name : String} (reserved : name ∈ Address.reserved) :
    ∃ cell < 16, predefined.lookup name = some cell := by
  revert name
  decide +kernel

theorem locate_of_bound {table : SymbolTable} {symbol : String} {cell : Nat}
    (bound : table.lookup? symbol = some cell) :
    table.locate symbol = (cell, table) := by
  rw [SymbolTable.locate, bound]

theorem locate_of_unbound {table : SymbolTable} {symbol : String}
    (unbound : table.lookup? symbol = none) :
    table.locate symbol =
      (table.next, ⟨table.entries ++ [(symbol, table.next)], table.next + 1⟩) := by
  rw [SymbolTable.locate, unbound]

/-- The first cell that is free for symbols. -/
def firstFree : Nat := 16

/-- The bindings of static symbols to consecutive cells. -/
def staticEntries (script : String) (indices : List Nat) (start : Nat) :
    List (String × Nat) :=
  (indices.zipIdx start).map fun (index, cell) =>
    (Address.staticSymbol script index, cell)

/-- The table after static symbols of a script were met in the given order. -/
def withStatics (script : String) (indices : List Nat) : SymbolTable :=
  ⟨predefined ++ staticEntries script indices firstFree,
    firstFree + indices.length⟩

@[simp]
theorem withStatics_nil (script : String) : withStatics script [] = initial :=
  rfl

theorem withStatics_standard (script : String) (indices : List Nat) :
    (withStatics script indices).Standard := by
  intro name cell bound
  rw [lookup?, withStatics, List.lookup_append, bound]
  rfl

theorem lookup_staticEntries (script : String) (indices : List Nat)
    (start index : Nat) :
    (staticEntries script indices start).lookup
        (Address.staticSymbol script index) =
      if index ∈ indices then some (start + indices.idxOf index) else none := by
  induction indices generalizing start with
  | nil => rfl
  | cons first rest ih =>
      have entries : staticEntries script (first :: rest) start =
          (Address.staticSymbol script first, start) ::
            staticEntries script rest (start + 1) := rfl
      rw [entries, List.lookup_cons]
      by_cases same : index = first
      · subst same
        simp
      · have different : (Address.staticSymbol script index ==
            Address.staticSymbol script first) = false := by
          rw [beq_eq_false_iff_ne]
          exact fun equal => same (Address.staticSymbol_inj.mp equal).2
        rw [different, ih (start + 1), List.idxOf_cons_ne _ (Ne.symm same)]
        simp only [List.mem_cons, same, false_or]
        split
        · congr 1
          omega
        · rfl

theorem lookup?_withStatics (script : String) (indices : List Nat)
    (index : Nat) :
    (withStatics script indices).lookup? (Address.staticSymbol script index) =
      if index ∈ indices then some (firstFree + indices.idxOf index) else none := by
  rw [lookup?, withStatics, List.lookup_append,
    Address.predefined_lookup_staticSymbol, Option.none_or, lookup_staticEntries]

/-- The indices met so far, with one more. -/
def meet (indices : List Nat) (index : Nat) : List Nat :=
  if index ∈ indices then indices else indices ++ [index]

theorem mem_meet {indices : List Nat} {index other : Nat} :
    other ∈ meet indices index ↔ other ∈ indices ∨ other = index := by
  rw [meet]
  split
  next met =>
    constructor
    · exact Or.inl
    · rintro (member | rfl)
      · exact member
      · exact met
  next => simp

theorem meet_nodup {indices : List Nat} (distinct : indices.Nodup) (index : Nat) :
    (meet indices index).Nodup := by
  rw [meet]
  split
  next => exact distinct
  next unmet =>
    rw [List.nodup_append]
    refine ⟨distinct, by simp, ?_⟩
    rintro first member second isIndex rfl
    exact unmet (by simpa using List.mem_singleton.mp isIndex ▸ member)

theorem length_le_meet (indices : List Nat) (index : Nat) :
    indices.length ≤ (meet indices index).length := by
  rw [meet]
  split
  · exact Nat.le_refl _
  · rw [List.length_append]
    exact Nat.le_add_right _ _

theorem idxOf_meet_of_mem {indices : List Nat} {other : Nat}
    (member : other ∈ indices) (index : Nat) :
    (meet indices index).idxOf other = indices.idxOf other := by
  rw [meet]
  split
  · rfl
  · rw [List.idxOf_append_of_mem member]

/-- The indices met so far, after others were met in order. -/
def meetAll (indices used : List Nat) : List Nat :=
  used.foldl meet indices

@[simp]
theorem meetAll_nil (indices : List Nat) : meetAll indices [] = indices :=
  rfl

@[simp]
theorem meetAll_cons (indices : List Nat) (index : Nat) (rest : List Nat) :
    meetAll indices (index :: rest) = meetAll (meet indices index) rest :=
  rfl

theorem meetAll_append (indices first second : List Nat) :
    meetAll indices (first ++ second) = meetAll (meetAll indices first) second :=
  List.foldl_append

theorem mem_meetAll {indices used : List Nat} {other : Nat} :
    other ∈ meetAll indices used ↔ other ∈ indices ∨ other ∈ used := by
  induction used generalizing indices with
  | nil => simp
  | cons index rest ih =>
      rw [meetAll_cons, ih, mem_meet, List.mem_cons, or_assoc]

theorem meetAll_nodup {indices : List Nat} (distinct : indices.Nodup)
    (used : List Nat) : (meetAll indices used).Nodup := by
  induction used generalizing indices with
  | nil => exact distinct
  | cons index rest ih => exact ih (meet_nodup distinct index)

theorem length_le_meetAll (indices used : List Nat) :
    indices.length ≤ (meetAll indices used).length := by
  induction used generalizing indices with
  | nil => exact Nat.le_refl _
  | cons index rest ih => exact (length_le_meet indices index).trans (ih _)

/-- From the start, as many indices are met as there are different ones. -/
theorem length_meetAll_nil (used : List Nat) :
    (meetAll [] used).length = used.dedup.length := by
  have same : (meetAll [] used).Perm used.dedup := by
    rw [List.perm_ext_iff_of_nodup (meetAll_nodup List.nodup_nil used)
      used.nodup_dedup]
    intro other
    rw [mem_meetAll, List.mem_dedup]
    simp
  exact same.length_eq

/-- Locating a static symbol of the script keeps the form of the table. -/
theorem locate_withStatics (script : String) (indices : List Nat) (index : Nat) :
    (withStatics script indices).locate (Address.staticSymbol script index) =
      (firstFree + (meet indices index).idxOf index,
        withStatics script (meet indices index)) := by
  have found := lookup?_withStatics script indices index
  by_cases met : index ∈ indices
  · rw [if_pos met] at found
    rw [locate_of_bound found, meet, if_pos met]
  · rw [if_neg met] at found
    rw [locate_of_unbound found, meet, if_neg met,
      List.idxOf_append_of_notMem met]
    simp [withStatics, staticEntries, List.zipIdx_append, Nat.add_assoc]

end SymbolTable

namespace Machine

theorem load_predefined (machine : Machine) (standard : machine.symbols.Standard)
    {name : String} {cell : Nat}
    (bound : SymbolTable.predefined.lookup name = some cell) :
    machine.load name = .ok { machine with address := cell } := by
  have letters : (SymbolTable.predefined.all fun entry =>
      entry.1.toList.any fun character => !Text.isDigit character) = true := by
    decide +kernel
  have member : (name, cell) ∈ SymbolTable.predefined := by
    obtain ⟨front, back, split, _⟩ := List.lookup_eq_some_iff.mp bound
    rw [split]
    simp
  obtain ⟨character, inName, notDigit⟩ :=
    List.any_eq_true.mp (List.all_eq_true.mp letters _ member)
  rw [machine.load_symbol inName (by simpa using notDigit),
    SymbolTable.locate_of_bound (standard name cell bound)]

theorem load_staticSymbol (machine : Machine) (script : String) (index : Int) :
    let symbol := Address.staticSymbol script index
    machine.load symbol =
      .ok { machine with
        address := (machine.symbols.locate symbol).1
        symbols := (machine.symbols.locate symbol).2 } :=
  machine.load_symbol (Address.point_mem_staticSymbol script index)
    (by decide +kernel)

end Machine

end StackCompiler
