import StackCompiler.Rejection

/-!
# Diagnostics

A diagnostic is a message of a certain category that may know its place in the
source.  Rejections become diagnostics once the line they came from is known.
-/

namespace StackCompiler

/-- The categories of diagnostics. -/
inductive Category where
  | general
  | malformed
  | unsupported
  /-- A command uses a segment that is switched off. -/
  | disabled
  deriving DecidableEq, Repr

def Restriction.category : Restriction → Category
  | .staticDisabled => .disabled
  | _ => .unsupported

def Rejection.category : Rejection → Category
  | .malformed _ => .malformed
  | .restricted cause => cause.category

/-- A message that may know its place in the source. -/
structure Diagnostic where
  category : Category
  message : String
  line : Option Int := none
  text : Option String := none
  deriving DecidableEq, Repr

namespace Diagnostic

def locate (diagnostic : Diagnostic) (line : Int) (text : String) : Diagnostic :=
  ⟨diagnostic.category, diagnostic.message, some line, some text⟩

/-- The full text of a diagnostic: its message, after its place if that is
known. -/
def render (diagnostic : Diagnostic) : String :=
  match diagnostic.line with
  | none => diagnostic.message
  | some line =>
      "line " ++ toString line ++ " (" ++ Text.quote? diagnostic.text ++ "): " ++
        diagnostic.message

/-- Whether a diagnostic is about behaviour that is switched off. -/
def isDisabled (diagnostic : Diagnostic) : Bool :=
  diagnostic.category == .disabled

end Diagnostic

def Rejection.diagnostic (rejection : Rejection) : Diagnostic :=
  ⟨rejection.category, rejection.message, none, none⟩

end StackCompiler
