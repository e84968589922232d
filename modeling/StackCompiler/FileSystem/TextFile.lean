import StackCompiler.HostWord
import StackCompiler.Text.Line
import StackCompiler.Text.Utf8

/-!
# Reading text files

The content of a text file is decoded, its line ends are unified, and the text
is taken in blocks of a given number of characters.  A negative size takes
everything at once, and a size of zero takes nothing.
-/

namespace StackCompiler

namespace TextFile

/-- Why the content of a file is no text. -/
inductive Fault where
  /-- The block size does not fit a signed word of 64 bits. -/
  | sizeTooLarge
  | undecodable (fault : Utf8.Fault)
  deriving DecidableEq, Repr

def Fault.message : Fault → String
  | .sizeTooLarge => HostWord.misfitMessage
  | .undecodable fault => fault.message

/-- Take a text in blocks of a given size. -/
def takeBlocks (size : Int) (text : List Char) : List (List Char) :=
  if size < 0 then [text] else Text.blocks size.toNat text

theorem flatten_takeBlocks {size : Int} (nonzero : size ≠ 0) (text : List Char) :
    (takeBlocks size text).flatten = text := by
  rw [takeBlocks]
  split
  · simp
  · exact Text.flatten_blocks (by omega) text

/-- Decode the content of a file.  Only a negative size decodes all bytes at
once; otherwise what the end of the file leaves unfinished is decoded apart. -/
def decode (size : Int) (content : List UInt8) : Except Fault (List Char) :=
  (Utf8.decode content).mapError fun fault =>
    .undecodable (if size < 0 then fault else fault.whileReading)

/-- Read the content of a file in blocks of a given size. -/
def read (size : Int) (content : List UInt8) : Except Fault String :=
  if !HostWord.fits size then
    .error .sizeTooLarge
  else if size = 0 then
    .ok ""
  else
    (decode size content).map fun text =>
      String.ofList (takeBlocks size (Text.unifyNewlines text)).flatten

end TextFile

end StackCompiler
