import Mathlib.Algebra.Group.Nat.Defs
import Mathlib.Data.List.Basic
import StackCompiler.Text.Quoted

/-!
# Quoted text can be read back

What a message shows in quotes determines the text that was quoted.  The first
character of a quoted text is the chosen quote, and each character inside is
read back from its quoted form, whatever follows it: a code escape has a fixed
number of digits, and every other escape has a letter of its own.
-/

namespace StackCompiler

namespace Text

/-- The value of a hexadecimal digit.  Other characters count as zero. -/
def hexDigitValue (digit : Char) : Nat :=
  ((List.range 16).find? fun value => value.digitChar == digit).getD 0

/-- The number written by hexadecimal digits, most significant first. -/
def hexValue (digits : List Char) : Nat :=
  digits.foldl (fun value digit => 16 * value + hexDigitValue digit) 0

theorem hexDigitValue_digitChar : ∀ value < 16, hexDigitValue value.digitChar = value := by
  decide

theorem hexValue_concat (digits : List Char) (digit : Char) :
    hexValue (digits ++ [digit]) = 16 * hexValue digits + hexDigitValue digit := by
  simp [hexValue]

theorem hexValue_toDigits (number : Nat) : hexValue (Nat.toDigits 16 number) = number := by
  induction number using Nat.strongRecOn with
  | ind number ih =>
      rw [Nat.toDigits_eq_if (by decide)]
      split
      next small => simp [hexValue, hexDigitValue_digitChar number small]
      next large =>
        have digit := hexDigitValue_digitChar (number % 16) (Nat.mod_lt _ (by decide))
        rw [hexValue_concat, ih (number / 16) (by omega), digit]
        omega

theorem hexValue_zeros_append (count : Nat) (digits : List Char) :
    hexValue (List.replicate count '0' ++ digits) = hexValue digits := by
  have zero : hexDigitValue '0' = 0 := by decide
  induction count with
  | zero => rfl
  | succ count ih =>
      rw [← ih, List.replicate_succ, List.cons_append, hexValue, List.foldl_cons, zero]
      rfl

/-- A number is read back from its hexadecimal form. -/
theorem hexValue_hexadecimal (width number : Nat) :
    hexValue (hexadecimal width number) = number := by
  rw [hexadecimal, List.leftpad, hexValue_zeros_append, hexValue_toDigits]

theorem length_hexadecimal {width number : Nat} (positive : 0 < width)
    (small : number < 16 ^ width) : (hexadecimal width number).length = width := by
  have short : (Nat.toDigits 16 number).length ≤ width :=
    (Nat.length_toDigits_le_iff (by decide) positive).mpr small
  rw [hexadecimal, List.length_leftpad, Nat.max_eq_left short]

/-- Read a character from the given number of hexadecimal digits. -/
def readCode (width : Nat) (text : List Char) : Char × List Char :=
  (Char.ofNat (hexValue (text.take width)), text.drop width)

/-- Read what stands behind a backslash. -/
def readEscape : List Char → Option (Char × List Char)
  | [] => none
  | 'n' :: rest => some ('\n', rest)
  | 'r' :: rest => some ('\r', rest)
  | 't' :: rest => some ('\t', rest)
  | 'x' :: rest => some (readCode 2 rest)
  | 'u' :: rest => some (readCode 4 rest)
  | 'U' :: rest => some (readCode 8 rest)
  | character :: rest => some (character, rest)

/-- Read the first character of a text from its quoted form. -/
def readQuoted : List Char → Option (Char × List Char)
  | [] => none
  | character :: rest =>
      if character = '\\' then readEscape rest else some (character, rest)

theorem readCode_hexadecimal {width : Nat} (positive : 0 < width) {character : Char}
    (small : character.toNat < 16 ^ width) (rest : List Char) :
    readCode width (hexadecimal width character.toNat ++ rest) = (character, rest) := by
  have length := length_hexadecimal positive small
  rw [readCode, List.take_left' length, List.drop_left' length, hexValue_hexadecimal,
    Char.ofNat_toNat]

theorem readQuoted_codeEscape (character : Char) (rest : List Char) :
    readQuoted (codeEscape character ++ rest) = some (character, rest) := by
  simp only [codeEscape]
  split
  next small => exact congrArg some (readCode_hexadecimal (by decide) small rest)
  next =>
    split
    next small => exact congrArg some (readCode_hexadecimal (by decide) small rest)
    next =>
      have scalar : character.toNat < 0xD800 ∨
          0xDFFF < character.toNat ∧ character.toNat < 0x110000 := character.valid
      have small : character.toNat < 16 ^ 8 := by omega
      exact congrArg some (readCode_hexadecimal (by decide) small rest)

/-- A character is read back from its quoted form, whatever follows it. -/
theorem readQuoted_quoteCharacter {mark : Char} (isMark : mark = '\x27' ∨ mark = '\x22')
    (character : Char) (rest : List Char) :
    readQuoted (quoteCharacter mark character ++ rest) = some (character, rest) := by
  rw [quoteCharacter]
  split
  next special =>
    rcases special with rfl | rfl
    · rfl
    · rcases isMark with rfl | rfl <;> rfl
  next plain =>
    rw [not_or] at plain
    split
    next isFeed => rw [isFeed]; rfl
    next =>
      split
      next isReturn => rw [isReturn]; rfl
      next =>
        split
        next isTab => rw [isTab]; rfl
        next =>
          split
          next => exact if_neg plain.1
          next => exact readQuoted_codeEscape character rest

theorem flatMap_quoteCharacter_inj {mark : Char} (isMark : mark = '\x27' ∨ mark = '\x22')
    {first second : List Char}
    (same : first.flatMap (quoteCharacter mark) = second.flatMap (quoteCharacter mark)) :
    first = second := by
  induction first generalizing second with
  | nil =>
      cases second with
      | nil => rfl
      | cons character rest =>
          have read := readQuoted_quoteCharacter isMark character
            (rest.flatMap (quoteCharacter mark))
          rw [← List.flatMap_cons, ← same] at read
          cases read
  | cons character rest ih =>
      have read := readQuoted_quoteCharacter isMark character
        (rest.flatMap (quoteCharacter mark))
      rw [← List.flatMap_cons, same] at read
      cases second with
      | nil => cases read
      | cons other others =>
          rw [List.flatMap_cons, readQuoted_quoteCharacter isMark] at read
          injection read with pair
          injection pair with sameCharacter sameRest
          rw [sameCharacter, ih sameRest.symm]

theorem quoteMark_eq (text : List Char) :
    quoteMark text = '\x27' ∨ quoteMark text = '\x22' := by
  rw [quoteMark]
  split
  · exact Or.inr rfl
  · exact Or.inl rfl

/-- Different texts have different quoted forms. -/
theorem quote_injective : Function.Injective quote := by
  intro first second same
  have lists : quoteList first.toList = quoteList second.toList :=
    String.ofList_injective same
  simp only [quoteList] at lists
  injection lists with sameMark inside
  rw [← sameMark] at inside
  have content := List.append_cancel_right inside
  exact String.toList_injective (flatMap_quoteCharacter_inj (quoteMark_eq _) content)

end Text

end StackCompiler
