/-!
# Blanks and tokens

Cleaning a source line and explaining a rejected one both rest on a single
class of blank characters.  This file fixes that class and the two operations
built on it: trimming a text at both ends and cutting it into the runs between
separators.  All functions work on character lists, so that later arguments
can follow the list structure.
-/

namespace StackCompiler

namespace Text

/-- The characters that count as blank: the control characters from tab to
carriage return, the four information separators, and every Unicode space. -/
def isBlank (character : Char) : Bool :=
  let code := character.toNat
  (0x09 ≤ code && code ≤ 0x0D) || (0x1C ≤ code && code ≤ 0x20) ||
    code == 0x85 || code == 0xA0 || code == 0x1680 ||
    (0x2000 ≤ code && code ≤ 0x200A) || code == 0x2028 || code == 0x2029 ||
    code == 0x202F || code == 0x205F || code == 0x3000

/-- Drop the characters of a class from both ends of a text. -/
def trimWhere (drops : Char → Bool) (text : List Char) : List Char :=
  ((text.dropWhile drops).reverse.dropWhile drops).reverse

/-- Drop the blanks at both ends of a text. -/
def trim (text : List Char) : List Char :=
  trimWhere isBlank text

/-- Cut a text at every separator.  The separators are dropped, and two
neighbouring separators enclose an empty piece. -/
def cutAt (separates : Char → Bool) : List Char → List (List Char)
  | [] => [[]]
  | character :: rest =>
      if separates character then
        [] :: cutAt separates rest
      else
        match cutAt separates rest with
        | [] => [[character]]
        | piece :: pieces => (character :: piece) :: pieces

def tokens (separates : Char → Bool) (text : List Char) : List (List Char) :=
  (cutAt separates text).filter fun piece => !piece.isEmpty

/-- The words of a text: its runs of characters between blanks. -/
def words (text : String) : List String :=
  (tokens isBlank text.toList).map String.ofList

/-- The part of a text before the first occurrence of a character, and the
part after it if there is one. -/
def splitFirst (separator : Char) : List Char → List Char × Option (List Char)
  | [] => ([], none)
  | character :: rest =>
      if character = separator then
        ([], some rest)
      else
        let (before, after) := splitFirst separator rest
        (character :: before, after)

end Text

end StackCompiler
