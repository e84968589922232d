import StackCompiler.Enumeration

/-!
# Commands of the stack machine

A command either combines the two topmost stack values or moves one value
between the stack and a memory segment.  This file names the operations and
segments, gives commands their printed form, and checks loose fields before
they become a command.
-/

namespace StackCompiler

/-- What a command does. -/
inductive Operation where
  | add
  | sub
  | push
  | pop
  deriving DecidableEq, Repr

namespace Operation

def all : List Operation := [add, sub, push, pop]

def name : Operation → String
  | add => "add"
  | sub => "sub"
  | push => "push"
  | pop => "pop"

def enumeration : Enumeration Operation where
  title := "Operation"
  items := all
  name := name
  complete operation := by cases operation <;> decide
  distinct first second := by cases first <;> cases second <;> decide

def ofName? (word : String) : Option Operation :=
  enumeration.ofName? word

@[simp]
theorem ofName?_name (operation : Operation) : ofName? operation.name = some operation :=
  Enumeration.ofName?_eq_some_iff.mpr rfl

/-- Whether an operation moves a value between the stack and a segment. -/
def isMemoryAccess : Operation → Bool
  | push | pop => true
  | add | sub => false

end Operation

/-- A memory segment of the stack machine. -/
inductive Segment where
  | locals
  | argument
  | this
  | that
  | temp
  | constant
  | pointer
  | static
  deriving DecidableEq, Repr

namespace Segment

def all : List Segment :=
  [locals, argument, this, that, temp, constant, pointer, static]

def name : Segment → String
  | locals => "local"
  | argument => "argument"
  | this => "this"
  | that => "that"
  | temp => "temp"
  | constant => "constant"
  | pointer => "pointer"
  | static => "static"

def enumeration : Enumeration Segment where
  title := "Segment"
  items := all
  name := name
  complete segment := by cases segment <;> decide
  distinct first second := by cases first <;> cases second <;> decide

def ofName? (word : String) : Option Segment :=
  enumeration.ofName? word

@[simp]
theorem ofName?_name (segment : Segment) : ofName? segment.name = some segment :=
  Enumeration.ofName?_eq_some_iff.mpr rfl

end Segment

/-- A command of the stack machine. -/
inductive Command where
  | add
  | sub
  /-- Copy a cell of a segment onto the stack. -/
  | push (segment : Segment) (index : Nat)
  /-- Move the topmost value into a cell of a segment. -/
  | pop (segment : Segment) (index : Nat)
  deriving DecidableEq, Repr

/-- Why an operation, a segment and an index do not form a command. -/
inductive CommandFault where
  /-- A memory access lacks its segment or its index. -/
  | missingOperands (operation : Operation)
  | negativeIndex (index : Int)
  /-- An arithmetic operation comes with a segment or an index. -/
  | unexpectedOperands (operation : Operation)
  deriving DecidableEq, Repr

def CommandFault.message : CommandFault → String
  | .missingOperands operation =>
      operation.name ++ " needs a segment and an index"
  | .negativeIndex index => "negative index: " ++ toString index
  | .unexpectedOperands operation => operation.name ++ " takes no operands"

namespace Command

def operation : Command → Operation
  | add => .add
  | sub => .sub
  | push .. => .push
  | pop .. => .pop

def segment? : Command → Option Segment
  | add | sub => none
  | push segment _ | pop segment _ => some segment

def index? : Command → Option Nat
  | add | sub => none
  | push _ index | pop _ index => some index

/-- The printed form of a command: its words with single spaces between
them. -/
def print : Command → String
  | add => "add"
  | sub => "sub"
  | push segment index => "push " ++ segment.name ++ " " ++ toString index
  | pop segment index => "pop " ++ segment.name ++ " " ++ toString index

/-- Form a memory access from fields that may be absent. -/
def ofAccess (operation : Operation) (build : Segment → Nat → Command)
    (segment : Option Segment) (index : Option Int) :
    Except CommandFault Command :=
  match segment, index with
  | some segment, some (.ofNat index) => .ok (build segment index)
  | some _, some (.negSucc below) =>
      .error (.negativeIndex (.negSucc below))
  | _, _ => .error (.missingOperands operation)

/-- Form a command from fields that may be absent. -/
def ofFields (operation : Operation) (segment : Option Segment)
    (index : Option Int) : Except CommandFault Command :=
  match operation with
  | .push => ofAccess .push push segment index
  | .pop => ofAccess .pop pop segment index
  | .add =>
      if segment.isNone && index.isNone then .ok add
      else .error (.unexpectedOperands .add)
  | .sub =>
      if segment.isNone && index.isNone then .ok sub
      else .error (.unexpectedOperands .sub)

end Command

end StackCompiler
