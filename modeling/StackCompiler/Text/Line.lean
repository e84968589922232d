/-!
# Lines

A text is divided into lines at ten kinds of boundary, with a carriage return
followed by a line feed counting once.  Files are read with a narrower rule
first: carriage returns, alone or before a line feed, become line feeds.
-/

namespace StackCompiler

namespace Text

def isLineBreak (character : Char) : Bool :=
  let code := character.toNat
  (0x0A ≤ code && code ≤ 0x0D) || (0x1C ≤ code && code ≤ 0x1E) ||
    code == 0x85 || code == 0x2028 || code == 0x2029

/-- The lines of a text without their boundaries.  A final boundary opens no
further line, and the empty text has no line. -/
def splitLines : List Char → List (List Char)
  | [] => []
  | '\r' :: '\n' :: rest => [] :: splitLines rest
  | character :: rest =>
      if isLineBreak character then
        [] :: splitLines rest
      else
        match splitLines rest with
        | [] => [[character]]
        | line :: lines => (character :: line) :: lines

def lines (text : String) : List String :=
  (splitLines text.toList).map String.ofList

/-- Write every carriage return, alone or with the line feed after it, as one
line feed. -/
def unifyNewlines : List Char → List Char
  | [] => []
  | '\r' :: '\n' :: rest => '\n' :: unifyNewlines rest
  | character :: rest =>
      (if character = '\r' then '\n' else character) :: unifyNewlines rest

/-- Cut a text into blocks of `size` characters, the last one possibly
shorter.  A size of zero yields no block. -/
def blocks (size : Nat) (text : List Char) : List (List Char) :=
  if size = 0 ∨ text = [] then
    []
  else
    text.take size :: blocks size (text.drop size)
termination_by text.length
decreasing_by
  rename_i proper
  have nonempty : text.length ≠ 0 := fun zero =>
    proper (Or.inr (List.eq_nil_of_length_eq_zero zero))
  simp only [List.length_drop]
  omega

theorem flatten_blocks {size : Nat} (positive : size ≠ 0) (text : List Char) :
    (blocks size text).flatten = text := by
  fun_induction blocks size text with
  | case1 text stopped =>
      rcases stopped with stopped | stopped
      · exact absurd stopped positive
      · simp [stopped]
  | case2 text proper ih => simp [ih]

end Text

end StackCompiler
