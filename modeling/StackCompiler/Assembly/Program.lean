/-!
# Assembly programs

Code is generated in blocks, one for each command, and every block opens with
a comment.  A program is a sequence of blocks, and its text is made of their
lines, each closed by a line feed.
-/

namespace StackCompiler

/-- A commented sequence of instructions. -/
structure Block where
  comment : String
  body : List String
  deriving DecidableEq, Repr

/-- The lines of a block: its comment and its instructions. -/
def Block.lines (block : Block) : List String :=
  ("// " ++ block.comment) :: block.body

/-- A sequence of blocks. -/
structure Program where
  blocks : List Block
  deriving DecidableEq, Repr

namespace Program

def empty : Program := ⟨[]⟩

def append (program : Program) (block : Block) : Program :=
  ⟨program.blocks ++ [block]⟩

def lines (program : Program) : List String :=
  program.blocks.flatMap Block.lines

def isEmpty (program : Program) : Bool :=
  program.blocks.isEmpty

def text (program : Program) : String :=
  String.join (program.lines.map (· ++ "\n"))

end Program

end StackCompiler
