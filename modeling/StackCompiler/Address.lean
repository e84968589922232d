import StackCompiler.HostWord
import StackCompiler.Rejection

/-!
# Addresses of segment cells

Each segment reaches its cells in its own way.  Four segments start at a base
pointer that is only known when the program runs, three name a fixed cell of
the target machine, and constants are no cells at all.  The static segment
names its cells after the script, so that scripts do not share them; a policy
may switch it off.
-/

namespace StackCompiler

/-- What becomes of the static segment. -/
inductive StaticPolicy where
  | symbols
  | reject
  deriving DecidableEq, Repr

namespace StaticPolicy

def all : List StaticPolicy := [symbols, reject]

def name : StaticPolicy → String
  | symbols => "symbols"
  | reject => "reject"

def enumeration : Enumeration StaticPolicy where
  title := "StaticPolicy"
  items := all
  name := name
  complete policy := by cases policy <;> decide
  distinct first second := by cases first <;> cases second <;> decide

def ofName? (word : String) : Option StaticPolicy :=
  enumeration.ofName? word

end StaticPolicy

/-- How the cell of a segment is reached. -/
inductive Address where
  /-- The named cell holds a base, and the offset is added to it. -/
  | indirect (base : String) (offset : Int)
  | direct (symbol : String)
  /-- The symbol is the value, and there is no cell. -/
  | literal (symbol : String)
  deriving DecidableEq, Repr

namespace Address

def stackPointer : String := "SP"

/-- The cell that holds a target address while a value is popped into it. -/
def scratch : String := "R13"

def tempBase : Nat := 5

/-- The segments that start at a base pointer, with the cells of their
pointers. -/
def basePointers : List (Segment × String) :=
  [(.locals, "LCL"), (.argument, "ARG"), (.this, "THIS"), (.that, "THAT")]

def pointerCells : List String := ["THIS", "THAT"]

def reserved : List String :=
  stackPointer :: basePointers.map Prod.snd ++ [scratch]

/-- The symbol of a static cell of a script. -/
def staticSymbol (script : String) (index : Int) : String :=
  script ++ "." ++ toString index

/-- The address of a static cell under a policy. -/
def ofStatic (script : String) (policy : StaticPolicy) (index : Int) :
    Except Restriction Address :=
  match policy with
  | .symbols => .ok (direct (staticSymbol script index))
  | .reject => .error .staticDisabled

/-- The address of a cell.  A segment with a base pointer reaches its cells
through it; the others follow rules of their own. -/
def ofSegment (script : String) (policy : StaticPolicy) (segment : Segment)
    (index : Nat) : Except Restriction Address :=
  match basePointers.lookup segment with
  | some base => .ok (indirect base index)
  | none =>
      match segment with
      | .temp =>
          if index < tempSize then .ok (direct (toString (tempBase + index)))
          else .error (.tempIndex index)
      | .pointer =>
          match pointerCells[index]? with
          | some cell => .ok (direct cell)
          | none => .error (.pointerIndex index)
      | .constant => .ok (literal (toString index))
      | .static => ofStatic script policy index
      | _ => .error .noSegment

/-- Why no address is found. -/
inductive Fault where
  /-- The segment or its cell cannot be given code. -/
  | restricted (cause : Restriction)
  | beforePointerCells
  /-- A negative index does not even fit a word. -/
  | indexTooLarge
  deriving DecidableEq, Repr

def Fault.message : Fault → String
  | .restricted cause => cause.message
  | .beforePointerCells => "tuple index out of range"
  | .indexTooLarge => HostWord.misfitMessage

/-- The address of a cell whose index is `below + 1` less than zero.  Base
pointers and temporary cells are counted down from their start, pointer cells
from their end. -/
def belowSegment (script : String) (policy : StaticPolicy) (segment : Segment)
    (below : Nat) : Except Fault Address :=
  match basePointers.lookup segment with
  | some base => .ok (indirect base (.negSucc below))
  | none =>
      match segment with
      | .temp => .ok (direct (toString (tempBase + Int.negSucc below)))
      | .pointer =>
          match pointerCells.reverse[below]? with
          | some cell => .ok (direct cell)
          | none =>
              if HostWord.fits (.negSucc below) then .error .beforePointerCells
              else .error .indexTooLarge
      | .constant => .ok (literal (toString (Int.negSucc below)))
      | .static =>
          (ofStatic script policy (.negSucc below)).mapError .restricted
      | _ => .error (.restricted .noSegment)

/-- The address of a cell of a segment that may be absent, with an index of
either sign. -/
def resolve (script : String) (policy : StaticPolicy) :
    Option Segment → Int → Except Fault Address
  | none, _ => .error (.restricted .noSegment)
  | some segment, .ofNat index =>
      (ofSegment script policy segment index).mapError .restricted
  | some segment, .negSucc below => belowSegment script policy segment below

end Address

end StackCompiler
