import Mathlib.Data.List.TakeWhile
import StackCompiler.Address
import StackCompiler.Command.Parser
import StackCompiler.Machine.Basic

/-!
# What the machine loads

The machine takes a loaded text for a number if it holds digits only, and for a
symbol otherwise.  Generated code loads decimal numerals, the names of fixed
cells, and static symbols, which all hold a point.  This file shows that each
kind is taken for what it is meant to be, whatever the script is called.
-/

namespace StackCompiler

namespace Text

theorem decimalValue?_of_isDigit {character : Char}
    (digit : character.isDigit = true) :
    decimalValue? character = some (character.toNat - 48) := by
  have range : 48 ≤ character.toNat ∧ character.toNat ≤ 57 := by
    simpa [Char.isDigit, UInt32.le_iff_toNat_le] using digit
  have first : decimalZeros.find? (fun start =>
      decide (start ≤ character.toNat) && decide (character.toNat < start + 10)) =
        some 48 := by
    rw [decimalZeros, List.find?_cons_of_pos]
    simp
    omega
  rw [decimalValue?, first]
  rfl

theorem isDecimal_of_isDigit {character : Char}
    (digit : character.isDigit = true) : isDecimal character = true := by
  rw [isDecimal, decimalValue?_of_isDigit digit]
  rfl

theorem isDigit_of_isDigit {character : Char}
    (digit : character.isDigit = true) : isDigit character = true := by
  simp [isDigit, isDecimal_of_isDigit digit]

theorem decimalNumber_eq_ofDigitChars {digits : List Char}
    (ascii : ∀ digit ∈ digits, digit.isDigit = true) :
    decimalNumber digits = Nat.ofDigitChars 10 digits 0 := by
  have folded : ∀ value, digits.foldl
      (fun value digit => 10 * value + (decimalValue? digit).getD 0) value =
        Nat.ofDigitChars 10 digits value := by
    induction digits with
    | nil => intro value; rfl
    | cons digit rest ih =>
        intro value
        have digitValue := decimalValue?_of_isDigit (ascii digit (by simp))
        rw [List.foldl_cons, digitValue, Nat.ofDigitChars_cons,
          ih fun other member => ascii other (by simp [member])]
        rfl
  exact folded 0

theorem readDecimal_of_isDigit {digits : List Char} (nonempty : digits ≠ [])
    (ascii : ∀ digit ∈ digits, digit.isDigit = true)
    (short : digits.length ≤ digitLimit) :
    readDecimal digits = .ok (Nat.ofDigitChars 10 digits 0) := by
  have whole : digits.takeWhile isDecimal = digits := by
    rw [List.takeWhile_eq_self_iff]
    exact fun digit member => isDecimal_of_isDigit (ascii digit member)
  simp only [readDecimal, whole]
  rw [if_neg (Nat.not_lt.mpr short), if_neg (by simp [nonempty]),
    decimalNumber_eq_ofDigitChars ascii]

end Text

theorem Address.point_mem_staticSymbol (script : String) (index : Int) :
    '.' ∈ (staticSymbol script index).toList := by
  simp [staticSymbol]

theorem Text.append_separator_inj {separator : Char}
    {front other back rest : List Char} (absentBack : separator ∉ back)
    (absentRest : separator ∉ rest)
    (same : front ++ separator :: back = other ++ separator :: rest) :
    front = other ∧ back = rest := by
  induction front generalizing other with
  | nil =>
      cases other with
      | nil =>
          injection same with _ tails
          exact ⟨rfl, tails⟩
      | cons first others =>
          injection same with _ tails
          exact absurd (by simp [tails]) absentBack
  | cons first others ih =>
      cases other with
      | nil =>
          injection same with _ tails
          exact absurd (by simp [← tails]) absentRest
      | cons second seconds =>
          injection same with heads tails
          obtain ⟨fronts, backs⟩ := ih tails
          exact ⟨by rw [heads, fronts], backs⟩

/-- A static symbol tells its script and its index apart, because a numeral
holds no point.  The name of the script may hold any number of points. -/
theorem Address.staticSymbol_inj {script other : String} {first second : Nat} :
    staticSymbol script first = staticSymbol other second ↔
      script = other ∧ first = second := by
  constructor
  · intro same
    have unpointed : ∀ number : Nat, '.' ∉ Nat.toDigits 10 number := by
      intro number member
      have digit := Nat.isDigit_of_mem_toDigits (by decide) (by decide) member
      exact absurd digit (by decide)
    have characters : script.toList ++ '.' :: Nat.toDigits 10 first =
        other.toList ++ '.' :: Nat.toDigits 10 second := by
      simpa [staticSymbol, toString, Int.repr] using congrArg String.toList same
    obtain ⟨scripts, numerals⟩ :=
      Text.append_separator_inj (unpointed first) (unpointed second) characters
    refine ⟨String.toList_injective scripts, ?_⟩
    rw [← @Nat.ofDigitChars_ten_toDigits first, numerals,
      Nat.ofDigitChars_ten_toDigits]
  · rintro ⟨rfl, rfl⟩
    rfl

theorem Address.predefined_lookup_staticSymbol (script : String) (index : Int) :
    SymbolTable.predefined.lookup (staticSymbol script index) = none := by
  rw [List.lookup_eq_none_iff]
  intro entry member
  have unpointed : ∀ entry ∈ SymbolTable.predefined, '.' ∉ entry.1.toList := by
    decide
  rw [bne_iff_ne]
  intro same
  apply unpointed entry member
  rw [← same]
  exact point_mem_staticSymbol script index

namespace Machine

/-- A numeral that an instruction can load is loaded as its number. -/
theorem load_number (machine : Machine) {number : Nat} (small : number ≤ maxIndex) :
    machine.load (toString number) = .ok { machine with address := number } := by
  have ascii : ∀ digit ∈ Nat.toDigits 10 number, digit.isDigit = true :=
    fun digit member => Nat.isDigit_of_mem_toDigits (by decide) (by decide) member
  have short : (Nat.toDigits 10 number).length ≤ Text.digitLimit := by
    have : (Nat.toDigits 10 number).length ≤ 5 := by
      rw [Nat.length_toDigits_le_iff (by decide) (by decide)]
      exact Nat.lt_of_le_of_lt small (by decide)
    exact Nat.le_trans this (by decide)
  have digits : (toString number).toList = Nat.toDigits 10 number := by
    simp
  have looksNumeric : (!(Nat.toDigits 10 number).isEmpty &&
      (Nat.toDigits 10 number).all Text.isDigit) = true := by
    have all : ∀ digit ∈ Nat.toDigits 10 number, Text.isDigit digit = true :=
      fun digit member => Text.isDigit_of_isDigit (ascii digit member)
    simpa using all
  simp only [load, digits]
  rw [if_pos looksNumeric,
    Text.readDecimal_of_isDigit Nat.toDigits_ne_nil ascii short,
    Nat.ofDigitChars_ten_toDigits]

theorem load_symbol (machine : Machine) {symbol : String} {character : Char}
    (member : character ∈ symbol.toList)
    (notDigit : Text.isDigit character = false) :
    machine.load symbol =
      .ok { machine with
        address := (machine.symbols.locate symbol).1
        symbols := (machine.symbols.locate symbol).2 } := by
  have notNumeric : ¬ (!symbol.toList.isEmpty &&
      symbol.toList.all Text.isDigit) = true := by
    intro numeric
    have all := (Bool.and_eq_true _ _ ▸ numeric).2
    have digit := List.all_eq_true.mp all character member
    rw [notDigit] at digit
    cases digit
  simp only [load]
  rw [if_neg notNumeric]
  rfl

end Machine

end StackCompiler
