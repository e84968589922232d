import StackCompiler.Text.Printable

/-!
# Quoted text

Messages show pieces of the source in quotes.  The quote is an apostrophe,
unless the text holds an apostrophe and no double quote.  Backslashes, the
chosen quote and every character without a visible form are escaped, so that
the quoted form is a single line of printable characters.
-/

namespace StackCompiler

namespace Text

/-- The character that encloses the quoted form of a text. -/
def quoteMark (text : List Char) : Char :=
  if text.contains '\x27' && !text.contains '\x22' then '\x22' else '\x27'

/-- A number in lowercase hexadecimal, with leading zeros up to a width. -/
def hexadecimal (width number : Nat) : List Char :=
  (Nat.toDigits 16 number).leftpad width '0'

/-- The escape of a character by its code, with two, four or eight digits. -/
def codeEscape (character : Char) : List Char :=
  let code := character.toNat
  if code < 0x100 then '\\' :: 'x' :: hexadecimal 2 code
  else if code < 0x10000 then '\\' :: 'u' :: hexadecimal 4 code
  else '\\' :: 'U' :: hexadecimal 8 code

/-- The quoted form of one character inside the given quotes. -/
def quoteCharacter (mark character : Char) : List Char :=
  if character = '\\' ∨ character = mark then ['\\', character]
  else if character = '\n' then ['\\', 'n']
  else if character = '\r' then ['\\', 'r']
  else if character = '\t' then ['\\', 't']
  else if isPrintable character then [character]
  else codeEscape character

/-- The quoted form of a text, on character lists. -/
def quoteList (text : List Char) : List Char :=
  let mark := quoteMark text
  mark :: text.flatMap (quoteCharacter mark) ++ [mark]

def quote (text : String) : String :=
  String.ofList (quoteList text.toList)

/-- The quoted form of a text that may be absent. -/
def quote? : Option String → String
  | some text => quote text
  | none => "None"

end Text

end StackCompiler
