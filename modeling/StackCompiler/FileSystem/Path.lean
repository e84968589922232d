import StackCompiler.Text.Blank
import StackCompiler.Text.Quoted

/-!
# Paths

A path is a list of names, read from where the program runs or from the top.
Empty names and single dots vanish when a path is read, while double dots stay.
-/

namespace StackCompiler

/-- Where a path starts. -/
inductive Anchor where
  | working
  | top
  | doubledTop
  deriving DecidableEq, Repr

def Anchor.text : Anchor → String
  | .working => ""
  | .top => "/"
  | .doubledTop => "//"

/-- A path to a file or directory. -/
structure Path where
  anchor : Anchor
  parts : List String
  deriving DecidableEq, Repr

namespace Path

/-- The anchor that the leading slashes of a text give. -/
def anchorOf (text : List Char) : Anchor :=
  match (text.takeWhile fun character => character == '/').length with
  | 0 => .working
  | 2 => .doubledTop
  | _ => .top

def ofString (text : String) : Path :=
  let pieces := Text.tokens (fun character => character == '/') text.toList
  ⟨anchorOf text.toList,
    (pieces.map String.ofList).filter fun part => part != "."⟩

def print (path : Path) : String :=
  if path.anchor = .working ∧ path.parts = [] then "."
  else path.anchor.text ++ "/".intercalate path.parts

/-- The last name of a path, empty if there is none. -/
def name (path : Path) : String :=
  path.parts.getLast?.getD ""

def parent (path : Path) : Path :=
  ⟨path.anchor, path.parts.dropLast⟩

/-- The part of a name before its first dot. -/
def beforeDot (name : String) : String :=
  String.ofList (name.toList.takeWhile fun character => character != '.')

def scriptName (path : Path) : String :=
  beforeDot path.name

/-- A name without its last suffix.  A suffix is a dot with something before
and after it. -/
def dropSuffix (name : String) : String :=
  let backwards := name.toList.reverse
  match Text.splitFirst '.' backwards with
  | (_ :: _, some (character :: rest)) =>
      String.ofList (character :: rest).reverse
  | _ => name

/-- Replace the last suffix of a path, or add one.  A path without a name has
no suffix to replace. -/
def withSuffix? (path : Path) (suffix : String) : Option Path :=
  if path.name.isEmpty then none
  else some ⟨path.anchor, path.parts.dropLast ++ [dropSuffix path.name ++ suffix]⟩

/-- What is said of a path without a name. -/
def emptyNameMessage (path : Path) : String :=
  "PosixPath(" ++ Text.quote path.print ++ ") has an empty name"

end Path

end StackCompiler
