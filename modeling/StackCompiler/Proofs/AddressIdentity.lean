import Mathlib
import StackCompiler.Proofs.GeneratedCode
import StackCompiler.Proofs.Loading

/-!
# Addresses and the cells they stand for

An address is a way to reach a cell, and cells are reached by text: a numeral, the
name of a register, or a static symbol.  This file shows that no two cells have
the same address.  Numerals, names and static symbols are never confused, numerals
and static symbols can be read back, and the way in which a cell is reached tells
the remaining segments apart.  All this is about indices from zero on.  An index
below zero counts pointer cells from their end, and reaches a cell that has an
address already.
-/

namespace StackCompiler

/-- An integer is written with digits and a sign only. -/
theorem Text.integer_ne_of_mem {number : Int} {text : String} {character : Char}
    (member : character ∈ text.toList) (notSign : character ≠ '-')
    (notDigit : character.isDigit = false) : toString number ≠ text := by
  rintro rfl
  have absent : ∀ size : Nat, character ∉ Nat.toDigits 10 size := by
    intro size inside
    rw [Nat.isDigit_of_mem_toDigits (by decide) (by decide) inside] at notDigit
    cases notDigit
  cases number with
  | ofNat size =>
      have inside : character ∈ Nat.toDigits 10 size := by
        simpa [toString, Int.repr] using member
      exact absent size inside
  | negSucc below =>
      have inside : character = '-' ∨ character ∈ Nat.toDigits 10 (below + 1) := by
        simpa [toString, Int.repr] using member
      exact inside.elim notSign (absent (below + 1))

namespace Address

theorem integer_ne_staticSymbol (number : Int) (script : String) (index : Int) :
    toString number ≠ staticSymbol script index :=
  Text.integer_ne_of_mem (point_mem_staticSymbol script index) (by decide) (by decide)

theorem numeral_ne_staticSymbol (number : Nat) (script : String) (index : Int) :
    toString number ≠ staticSymbol script index :=
  integer_ne_staticSymbol number script index

theorem staticSymbol_not_all_digits (script : String) (index : Int) :
    (staticSymbol script index).toList.all Text.isDigit = false := by
  rw [List.all_eq_false]
  exact ⟨'.', point_mem_staticSymbol script index, by decide⟩

end Address

namespace BaseRegister

theorem symbol_injective : Function.Injective symbol := by
  intro first second same
  revert same
  cases first <;> cases second <;> decide

theorem symbol_ne_numeral (register : BaseRegister) (number : Nat) :
    register.symbol ≠ toString number := by
  have letter : register.symbol.toList.any
      (fun character => character != '-' && !character.isDigit) = true := by
    cases register <;> decide
  obtain ⟨character, member, isLetter⟩ := List.any_eq_true.mp letter
  obtain ⟨notSign, notDigit⟩ : character ≠ '-' ∧ character.isDigit = false := by
    simpa using isLetter
  have differs : toString (number : Int) ≠ register.symbol :=
    Text.integer_ne_of_mem member notSign notDigit
  exact differs.symm

theorem symbol_ne_staticSymbol (register : BaseRegister) (script : String) (index : Int) :
    register.symbol ≠ Address.staticSymbol script index := by
  intro same
  have point := Address.point_mem_staticSymbol script index
  rw [← same] at point
  revert point
  cases register <;> decide

end BaseRegister

/-- An address tells the segment and the index of its cell, and the script if the
cell is static. -/
theorem Address.Form.unique {script other : String} {segment second : Segment}
    {index place : Nat} {address again : Address} (form : Form script segment index address)
    (otherForm : Form other second place again) (same : address = again) :
    segment = second ∧ index = place ∧ (segment = .static → script = other) := by
  cases form with
  | based register index =>
      cases otherForm with
      | based otherRegister place =>
          injection same with symbols offsets
          obtain rfl := BaseRegister.symbol_injective symbols
          refine ⟨rfl, Int.ofNat.inj offsets, ?_⟩
          cases register <;> simp [BaseRegister.segment]
      | _ => cases same
  | constant index =>
      cases otherForm with
      | constant place =>
          injection same with numerals
          exact ⟨rfl, Nat.repr_inj.mp numerals, by simp⟩
      | _ => cases same
  | temp inside =>
      cases otherForm with
      | temp =>
          injection same with numerals
          have := Nat.repr_inj.mp numerals
          exact ⟨rfl, by omega, by simp⟩
      | pointerThis | pointerThat =>
          injection same with symbols
          exact absurd symbols.symm (BaseRegister.symbol_ne_numeral _ _)
      | static =>
          injection same with symbols
          exact absurd symbols (numeral_ne_staticSymbol _ _ _)
      | _ => cases same
  | pointerThis | pointerThat =>
      cases otherForm with
      | pointerThis | pointerThat =>
          injection same with symbols
          have registers := BaseRegister.symbol_injective symbols
          simp_all
      | temp =>
          injection same with symbols
          exact absurd symbols (BaseRegister.symbol_ne_numeral _ _)
      | static =>
          injection same with symbols
          exact absurd symbols (BaseRegister.symbol_ne_staticSymbol _ _ _)
      | _ => cases same
  | static index =>
      cases otherForm with
      | static place =>
          injection same with symbols
          obtain ⟨scripts, indices⟩ := staticSymbol_inj.mp symbols
          exact ⟨rfl, indices, fun _ => scripts⟩
      | temp =>
          injection same with symbols
          exact absurd symbols.symm (numeral_ne_staticSymbol _ _ _)
      | pointerThis | pointerThat =>
          injection same with symbols
          exact absurd symbols.symm (BaseRegister.symbol_ne_staticSymbol _ _ _)
      | _ => cases same

namespace Address

theorem resolve_static (script : String) (index : Int) :
    resolve script .symbols (some .static) index =
      .ok (.direct (staticSymbol script index)) := by
  cases index <;> rfl

/-- Two addresses agree exactly if they were found for the same cell: the same
index of the same segment, in the same script if the segment is static. -/
theorem eq_iff_of_resolve {script other : String} {segment second : Segment}
    {index place : Nat} {address again : Address}
    (found : resolve script .symbols (some segment) index = .ok address)
    (foundAgain : resolve other .symbols (some second) place = .ok again) :
    address = again ↔
      segment = second ∧ index = place ∧ (segment = .static → script = other) := by
  have first := ofSegment_of_resolve found
  have later := ofSegment_of_resolve foundAgain
  constructor
  · intro same
    exact (form_of_ofSegment first).unique (form_of_ofSegment later) same
  · rintro ⟨rfl, rfl, sameScript⟩
    have agrees : ofSegment script .symbols segment index =
        ofSegment other .symbols segment index := by
      by_cases isStatic : segment = .static
      · rw [sameScript isStatic]
      · exact ofSegment_of_ne_static isStatic script other .symbols .symbols index
    rw [agrees, later] at first
    injection first with equal
    exact equal.symm

/-- An address is never shared.  If two cells with indices from zero on have
addresses, then these agree exactly if the segments and the indices do, and for
static cells also the scripts.  The symbol of a static cell is neither predefined
nor the decimal text of an integer, and it is no run of digits of any kind, which
the machine would take for a number; this holds for scripts of any name. -/
theorem address_identifies_cell :
    (∀ (script other : String) (segment second : Segment) (index place : Int)
        (address again : Address), 0 ≤ index → 0 ≤ place →
      resolve script .symbols (some segment) index = .ok address →
      resolve other .symbols (some second) place = .ok again →
        (address = again ↔
          segment = second ∧ index = place ∧ (segment = .static → script = other))) ∧
    ∀ (script : String) (index : Int) (address : Address),
      resolve script .symbols (some .static) index = .ok address →
      ∃ symbol, address = .direct symbol ∧
        SymbolTable.predefined.lookup symbol = none ∧
        (∀ number : Int, symbol ≠ toString number) ∧
        symbol.toList.all Text.isDigit = false := by
  constructor
  · intro script other segment second index place address again counted countedAgain
      found foundAgain
    obtain ⟨index, rfl⟩ := Int.eq_ofNat_of_zero_le counted
    obtain ⟨place, rfl⟩ := Int.eq_ofNat_of_zero_le countedAgain
    rw [Int.natCast_inj]
    exact eq_iff_of_resolve found foundAgain
  · intro script index address found
    rw [resolve_static] at found
    cases found
    exact ⟨_, rfl, predefined_lookup_staticSymbol script index,
      fun number => (integer_ne_staticSymbol number script index).symm,
      staticSymbol_not_all_digits script index⟩

-- Below zero, the pointer cells are found once more.
example : resolve "Main" .symbols (some .pointer) (-1) =
    resolve "Main" .symbols (some .pointer) 1 := by
  rfl

/-- Two scripts named after a register, one with a number behind it, and static
cells whose symbols differ by a single point. -/
theorem address_identifies_cell_lookalike :
    resolve "R1" .symbols (some .static) 10 = .ok (.direct "R1.10") ∧
      resolve "R1.1" .symbols (some .static) 0 = .ok (.direct "R1.1.0") ∧
      direct "R1.10" ≠ direct "R1.1.0" ∧
      SymbolTable.predefined.lookup "R1.10" = none ∧
      ∀ number : Int, "R1.10" ≠ toString number := by
  have found : resolve "R1" .symbols (some .static) 10 = .ok (.direct "R1.10") := by
    decide +kernel
  have foundAgain : resolve "R1.1" .symbols (some .static) 0 = .ok (.direct "R1.1.0") := by
    decide +kernel
  obtain ⟨identifies, symbols⟩ := address_identifies_cell
  have apart : direct "R1.10" ≠ direct "R1.1.0" := by
    intro same
    have cells := (identifies _ _ _ _ _ _ _ _ (by decide) (by decide) found foundAgain).mp same
    exact absurd cells.2.1 (by decide)
  obtain ⟨symbol, isSymbol, free, noNumber, _⟩ := symbols _ _ _ found
  cases isSymbol
  exact ⟨found, foundAgain, apart, free, noNumber⟩

end Address

end StackCompiler
