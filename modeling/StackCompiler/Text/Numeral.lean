import StackCompiler.Text.Blank
import StackCompiler.Text.Digit
import StackCompiler.Text.Quoted

/-!
# Numerals

Three places read numbers: the index of a command, the operand of an address
instruction, and a size on the command line.  Each refuses a numeral with more
than 4300 digits, leading zeros included.
-/

namespace StackCompiler

namespace Text

/-- The largest number of digits that a numeral may have. -/
def digitLimit : Nat := 4300

/-- Why a text that should be a number has no value. -/
inductive NumeralFault where
  | tooLong (digits : Nat)
  | notDecimal (text : String)
  deriving DecidableEq, Repr

/-- What is said of a numeral beyond the digit limit. -/
def tooLongMessage (digits : Nat) : String :=
  "Exceeds the limit (" ++ toString digitLimit ++
    " digits) for integer string conversion: value has " ++ toString digits ++
    " digits; use sys.set_int_max_str_digits() to increase the limit"

/-- The wording of a numeral fault.  At most 200 characters of the quoted text
are shown. -/
def NumeralFault.message : NumeralFault → String
  | .tooLong digits => tooLongMessage digits
  | .notDecimal text =>
      "invalid literal for int() with base 10: " ++
        String.ofList ((quoteList text.toList).take 200)

/-- Read a text as an unsigned decimal number.  The leading run of decimal
digits is measured before anything after it is considered. -/
def readDecimal (text : List Char) : Except NumeralFault Nat :=
  let digits := text.takeWhile isDecimal
  if digitLimit < digits.length then
    .error (.tooLong digits.length)
  else if digits.isEmpty || digits.length < text.length then
    .error (.notDecimal (String.ofList text))
  else
    .ok (decimalNumber digits)

/-- The blanks that may surround a signed numeral: all but the information
separators. -/
def surroundsNumeral (character : Char) : Bool :=
  isBlank character && !(0x1C ≤ character.toNat && character.toNat ≤ 0x1F)

def readGrouped? (text : List Char) : Option Nat :=
  let groups := cutAt (fun character => character == '_') text
  let digits := groups.flatten
  if groups.all (fun group => !group.isEmpty && group.all isDecimal) &&
      digits.length ≤ digitLimit then
    some (decimalNumber digits)
  else
    none

/-- Read an optional sign and digits with single underscores between them,
blanks around them ignored. -/
def readInteger? (text : String) : Option Int :=
  match trimWhere surroundsNumeral text.toList with
  | '+' :: digits => (readGrouped? digits).map Int.ofNat
  | '-' :: digits => (readGrouped? digits).map fun number => -(number : Int)
  | digits => (readGrouped? digits).map Int.ofNat

end Text

end StackCompiler
