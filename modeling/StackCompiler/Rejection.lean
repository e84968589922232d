import StackCompiler.Command.Parser

/-!
# Rejections

A line fails to compile for one of two reasons.  It may be malformed, or it may
be a command that cannot be given code: its cell does not exist, its segment
has no cells to write, or its segment is switched off.  Both are rejections of
the line, and each has one wording.
-/

namespace StackCompiler

/-- The number of temporary cells. -/
def Address.tempSize : Nat := 8

/-- Why a command cannot be given code. -/
inductive Restriction where
  | tempIndex (index : Nat)
  /-- The pointer segment has only the cells 0 and 1. -/
  | pointerIndex (index : Nat)
  | noSegment
  /-- An operation that is not arithmetic has no arithmetic code. -/
  | notArithmetic (operation : Operation)
  /-- An operation that is not a memory access has no access code. -/
  | notMemoryAccess (operation : Operation)
  | popInto (segment : Segment)
  | staticDisabled
  deriving DecidableEq, Repr

def Restriction.message : Restriction → String
  | .tempIndex index =>
      "temp index " ++ toString index ++ " is out of range 0.." ++
        toString (Address.tempSize - 1)
  | .pointerIndex index =>
      "pointer index must be 0 or 1, got " ++ toString index
  | .noSegment => "no addressing rule for segment None"
  | .notArithmetic operation =>
      operation.name ++ " is not an arithmetic command"
  | .notMemoryAccess operation =>
      operation.name ++ " is not a push/pop command"
  | .popInto segment => "cannot pop into segment " ++ segment.name
  | .staticDisabled =>
      "static segment is disabled (static policy \x27reject\x27)"

/-- Why a line is not compiled. -/
inductive Rejection where
  | malformed (cause : Malformation)
  | restricted (cause : Restriction)
  deriving DecidableEq, Repr

def Rejection.message : Rejection → String
  | .malformed cause => cause.message
  | .restricted cause => cause.message

end StackCompiler
