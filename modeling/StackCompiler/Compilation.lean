import StackCompiler.Codegen
import StackCompiler.Diagnostic
import StackCompiler.Source
import StackCompiler.Text.Line

/-!
# Compiling a source

A source is compiled in one pass over its lines.  Every rejected line is kept
with its place, and a single one is enough for there to be no program.  An index
beyond the digit limit is not a rejection of its line: it ends the whole pass,
and what was gathered until then is lost.
-/

namespace StackCompiler

/-- Why a line yields no block. -/
inductive LineFault where
  | rejected (cause : Rejection)
  /-- The index of the line is beyond the digit limit. -/
  | oversizeIndex (oversize : OversizeIndex)
  deriving DecidableEq, Repr

def compileLine (script : String) (policy : StaticPolicy) (text : String) :
    Except LineFault Block :=
  match Command.parse text with
  | .error (.malformed cause) => .error (.rejected (.malformed cause))
  | .error (.oversizeIndex oversize) => .error (.oversizeIndex oversize)
  | .ok command =>
      (Codegen.block script policy command).mapError fun cause =>
        .rejected (.restricted cause)

/-- A rejected line. -/
structure Complaint where
  line : SourceLine
  cause : Rejection
  deriving DecidableEq, Repr

def Complaint.diagnostic (complaint : Complaint) : Diagnostic :=
  complaint.cause.diagnostic.locate complaint.line.number complaint.line.text

/-- The outcome of compiling a source. -/
inductive Compilation where
  | compiled (program : Program)
  | rejected (first : Complaint) (others : List Complaint)
  deriving DecidableEq, Repr

namespace Compilation

def program? : Compilation → Option Program
  | compiled program => some program
  | rejected .. => none

def complaints : Compilation → List Complaint
  | compiled _ => []
  | rejected first others => first :: others

def isOk (compilation : Compilation) : Bool :=
  compilation.complaints.isEmpty

/-- The lines of the program, or none without a program. -/
def lines : Compilation → List String
  | compiled program => program.lines
  | rejected .. => []

/-- The outcome once all complaints and blocks are known.  A single complaint is
enough for there to be no program. -/
def conclude (complaints : List Complaint) (blocks : List Block) : Compilation :=
  match complaints with
  | [] => compiled ⟨blocks⟩
  | first :: others => rejected first others

theorem complaints_conclude (complaints : List Complaint) (blocks : List Block) :
    (conclude complaints blocks).complaints = complaints := by
  cases complaints <;> rfl

theorem program?_conclude (complaints : List Complaint) (blocks : List Block) :
    (conclude complaints blocks).program? =
      if complaints = [] then some ⟨blocks⟩ else none := by
  cases complaints <;> rfl

end Compilation

/-- What a compilation has gathered from the lines looked at so far. -/
structure Progress where
  visited : Array SourceLine := #[]
  complaints : Array Complaint := #[]
  blocks : Array Block := #[]
  deriving DecidableEq, Repr

/-- Why a compilation ended early, and the lines looked at until then. -/
structure Interruption where
  oversize : OversizeIndex
  visited : Array SourceLine
  deriving DecidableEq, Repr

namespace Progress

/-- Look at one more line. -/
def visit (script : String) (policy : StaticPolicy) (progress : Progress)
    (line : SourceLine) : Except Interruption Progress :=
  -- A line counts as looked at before anything is known about it.
  let visited := progress.visited.push line
  match compileLine script policy line.text with
  | .ok block =>
      .ok { progress with visited, blocks := progress.blocks.push block }
  | .error (.rejected cause) =>
      .ok { progress with
        visited, complaints := progress.complaints.push ⟨line, cause⟩ }
  | .error (.oversizeIndex oversize) => .error ⟨oversize, visited⟩

/-- The outcome if there are no more lines. -/
def compilation (progress : Progress) : Compilation :=
  .conclude progress.complaints.toList progress.blocks.toList

end Progress

/-- One pass over a source: the lines looked at, in order, and what came of
them. -/
structure Pass where
  visited : List SourceLine
  outcome : Except OversizeIndex Compilation

/-- Look at the lines of a script one after the other. -/
def Pass.over (script : String) (policy : StaticPolicy) (lines : List String) : Pass :=
  match (sourceLines lines).foldlM (Progress.visit script policy) {} with
  | .ok progress => ⟨progress.visited.toList, .ok progress.compilation⟩
  | .error interruption =>
      ⟨interruption.visited.toList, .error interruption.oversize⟩

/-- Compile the lines of a script. -/
def compile (script : String) (policy : StaticPolicy) (lines : List String) :
    Except OversizeIndex Compilation :=
  (Pass.over script policy lines).outcome

/-- The lines that a compilation looks at, in order. -/
def visitedLines (script : String) (policy : StaticPolicy) (lines : List String) :
    List SourceLine :=
  (Pass.over script policy lines).visited

def compileText (script : String) (policy : StaticPolicy) (text : String) :
    Except OversizeIndex Compilation :=
  compile script policy (Text.lines text)

end StackCompiler
