/-!
# UTF-8

Decoding follows the well-formed byte sequences of the encoding: a lead byte
says how many bytes follow and which second bytes are allowed, so that
overlong forms, surrogates and codes beyond the last one are refused at their
second byte.  A fault records where the bad sequence starts, how many bytes of
it were acceptable, and what was wrong.
-/

namespace StackCompiler

namespace Utf8

/-- What is wrong with a byte sequence. -/
inductive Reason where
  | invalidStart
  /-- A byte does not continue the sequence before it. -/
  | invalidContinuation
  | unexpectedEnd
  deriving DecidableEq, Repr

def Reason.message : Reason → String
  | .invalidStart => "invalid start byte"
  | .invalidContinuation => "invalid continuation byte"
  | .unexpectedEnd => "unexpected end of data"

/-- A sequence of bytes that encodes no character. -/
structure Fault where
  start : Nat
  lead : UInt8
  length : Nat
  reason : Reason
  /-- Whether the end of the data left the sequence unfinished. -/
  unfinished : Bool
  deriving DecidableEq, Repr

def hexByte (byte : UInt8) : String :=
  String.ofList ((Nat.toDigits 16 byte.toNat).leftpad 2 '0')

/-- The wording of a decoding fault.  A single byte is named, several are given
by their range. -/
def Fault.message (fault : Fault) : String :=
  let place :=
    if fault.length = 1 then
      "byte 0x" ++ hexByte fault.lead ++ " in position " ++ toString fault.start
    else
      "bytes in position " ++ toString fault.start ++ "-" ++
        toString (fault.start + fault.length - 1)
  "\x27utf-8\x27 codec can\x27t decode " ++ place ++ ": " ++ fault.reason.message

/-- The shape of a sequence of several bytes, as its lead byte gives it. -/
structure Shape where
  /-- The bits of the code that the lead byte holds. -/
  bits : Nat
  low : Nat
  high : Nat
  tails : Nat
  deriving DecidableEq, Repr

/-- The shape that a lead byte announces, if it can start a sequence of several
bytes. -/
def Shape.ofLead? (lead : Nat) : Option Shape :=
  if lead < 0xC2 then none
  else if lead < 0xE0 then some ⟨lead - 0xC0, 0x80, 0xBF, 0⟩
  else if lead = 0xE0 then some ⟨0, 0xA0, 0xBF, 1⟩
  else if lead = 0xED then some ⟨0xD, 0x80, 0x9F, 1⟩
  else if lead < 0xF0 then some ⟨lead - 0xE0, 0x80, 0xBF, 1⟩
  else if lead = 0xF0 then some ⟨0, 0x90, 0xBF, 2⟩
  else if lead < 0xF4 then some ⟨lead - 0xF0, 0x80, 0xBF, 2⟩
  else if lead = 0xF4 then some ⟨4, 0x80, 0x8F, 2⟩
  else none

/-- Whether a byte can stand third or fourth in a sequence. -/
def isTail (byte : UInt8) : Bool :=
  0x80 ≤ byte.toNat && byte.toNat ≤ 0xBF

/-- The code of a sequence extended by one byte. -/
def extend (code : Nat) (byte : UInt8) : Nat :=
  64 * code + byte.toNat % 64

/-- A decoded sequence, or the reason and number of bytes of a bad one. -/
inductive Sequence where
  | character (code : Nat) (length : Nat)
  | bad (length : Nat) (reason : Reason) (unfinished : Bool)
  deriving DecidableEq, Repr

/-- Read the bytes after the second one, `length` bytes having been read. -/
def readTails (code length : Nat) : Nat → List UInt8 → Sequence
  | 0, _ => .character code length
  | _ + 1, [] => .bad length .unexpectedEnd true
  | count + 1, byte :: rest =>
      if isTail byte then readTails (extend code byte) (length + 1) count rest
      else .bad length .invalidContinuation false

/-- Read one sequence, given its lead byte and the bytes after it.  A second
byte that would make a surrogate is still waited for, so such a pair at the end
of the data counts as unfinished. -/
def readSequence (lead : UInt8) (rest : List UInt8) : Sequence :=
  if lead.toNat < 0x80 then
    .character lead.toNat 1
  else
    match Shape.ofLead? lead.toNat with
    | none => .bad 1 .invalidStart false
    | some shape =>
        match rest with
        | [] => .bad 1 .unexpectedEnd true
        | second :: rest =>
            if shape.low ≤ second.toNat && second.toNat ≤ shape.high then
              readTails (extend shape.bits second) 2 shape.tails rest
            else
              .bad 1 .invalidContinuation
                (lead == 0xED && isTail second && rest.isEmpty)

/-- Decode bytes, the first of which has the given position. -/
def decodeFrom (position : Nat) : List UInt8 → Except Fault (List Char)
  | [] => .ok []
  | lead :: rest =>
      match readSequence lead rest with
      | .bad length reason unfinished =>
          .error ⟨position, lead, length, reason, unfinished⟩
      | .character code length =>
          (decodeFrom (position + length) (rest.drop (length - 1))).map
            (Char.ofNat code :: ·)
termination_by bytes => bytes.length
decreasing_by simp only [List.length_drop, List.length_cons]; omega

def decode (bytes : List UInt8) : Except Fault (List Char) :=
  decodeFrom 0 bytes

/-- The fault of a text that is decoded while it is being read: what the end of
the data leaves unfinished is judged on its own, so positions in it count from
its first byte. -/
def Fault.whileReading (fault : Fault) : Fault :=
  if fault.unfinished then ⟨0, fault.lead, fault.length, fault.reason, true⟩
  else fault

def encode (text : List Char) : List UInt8 :=
  text.flatMap String.utf8EncodeChar

end Utf8

end StackCompiler
