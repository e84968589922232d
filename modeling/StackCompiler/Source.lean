import StackCompiler.Text.Blank

/-!
# Source lines

Before a line is read as a command, its comment is cut off and the blanks
around it are dropped.  Lines with nothing left are skipped, but they keep
their place in the numbering.
-/

namespace StackCompiler

/-- The part of a line before its comment, which starts at the first two
slashes in a row. -/
def cutComment : List Char → List Char
  | [] => []
  | '/' :: '/' :: _ => []
  | character :: rest => character :: cutComment rest

/-- A line without its comment and without the blanks around it. -/
def cleanLine (raw : String) : String :=
  String.ofList (Text.trim (cutComment raw.toList))

/-- A line with something left after cleaning. -/
structure SourceLine where
  /-- The place of the line among all lines, counted from one. -/
  number : Nat
  text : String
  deriving DecidableEq, Repr

/-- The lines that hold a command, or should, with their numbers. -/
def sourceLines (lines : List String) : List SourceLine :=
  ((lines.map cleanLine).zipIdx 1).filterMap fun (text, number) =>
    if text.isEmpty then none else some ⟨number, text⟩

end StackCompiler
