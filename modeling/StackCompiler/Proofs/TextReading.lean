import StackCompiler.FileSystem.TextFile

/-!
# Reading a text file

A file is read by decoding it, unifying its line ends and taking the text block
by block, and the text is then divided into lines.  None of this can be told
from dividing the decoded text at once: a line end is one boundary before and
after it is unified, and blocks are put together again.  Decoding undoes
encoding, so a text that was written is read back.
-/

namespace StackCompiler

namespace Utf8

/-- The byte that carries the last six bits of a number in a sequence of several
bytes. -/
def tailByte (number : Nat) : UInt8 :=
  UInt8.ofNat (number % 0x40 + 0x80)

theorem toNat_tailByte (number : Nat) :
    (tailByte number).toNat = number % 64 + 128 := by
  rw [tailByte, UInt8.toNat_ofNat']
  omega

theorem isTail_tailByte (number : Nat) : isTail (tailByte number) = true := by
  simp only [isTail, toNat_tailByte, Bool.and_eq_true, decide_eq_true_eq]
  omega

theorem extend_tailByte (code number : Nat) :
    extend code (tailByte number) = 64 * code + number % 64 := by
  rw [extend, toNat_tailByte]
  omega

theorem readTails_tailByte (code length count number : Nat) (rest : List UInt8) :
    readTails code length (count + 1) (tailByte number :: rest) =
      readTails (64 * code + number % 64) (length + 1) count rest := by
  rw [readTails, if_pos (isTail_tailByte number), extend_tailByte]

theorem readSequence_of_shape {lead : UInt8} {bits low high tails number : Nat}
    (announced : Shape.ofLead? lead.toNat = some ⟨bits, low, high, tails⟩)
    (above : low ≤ number % 64 + 128) (below : number % 64 + 128 ≤ high)
    (rest : List UInt8) :
    readSequence lead (tailByte number :: rest) =
      readTails (64 * bits + number % 64) 2 tails rest := by
  have several : ¬ lead.toNat < 0x80 := by
    intro single
    rw [Shape.ofLead?, if_pos (Nat.lt_trans single (by decide))] at announced
    cases announced
  rw [readSequence, if_neg several, announced]
  simp only [toNat_tailByte, above, below, decide_true, Bool.and_self, if_true,
    extend_tailByte]

section Sequences

variable {code : Nat}

theorem readSequence_one (below : code ≤ 0x7F) (rest : List UInt8) :
    readSequence (UInt8.ofNat code) rest = .character code 1 := by
  have lead : (UInt8.ofNat code).toNat = code := by
    rw [UInt8.toNat_ofNat']
    omega
  rw [readSequence, lead, if_pos (by omega)]

theorem readSequence_two (above : 0x7F < code) (below : code ≤ 0x7FF)
    (rest : List UInt8) :
    readSequence (UInt8.ofNat (code / 64 % 0x20 + 0xC0)) (tailByte code :: rest) =
      .character code 2 := by
  have lead : (UInt8.ofNat (code / 64 % 0x20 + 0xC0)).toNat = code / 64 + 0xC0 := by
    rw [UInt8.toNat_ofNat']
    omega
  have shape : Shape.ofLead? (code / 64 + 0xC0) = some ⟨code / 64, 0x80, 0xBF, 0⟩ := by
    rw [Shape.ofLead?, if_neg (by omega), if_pos (by omega), Nat.add_sub_cancel]
  rw [← lead] at shape
  rw [readSequence_of_shape shape (by omega) (by omega), readTails]
  congr 1
  omega

/-- Three bytes leave out the codes of two, and the surrogates. -/
theorem ofLead?_three (above : 0x7FF < code) (below : code ≤ 0xFFFF)
    (scalar : code < 0xD800 ∨ 0xDFFF < code) :
    ∃ low high, Shape.ofLead? (code / 4096 + 0xE0) = some ⟨code / 4096, low, high, 1⟩ ∧
      low ≤ code / 64 % 64 + 128 ∧ code / 64 % 64 + 128 ≤ high := by
  rw [Shape.ofLead?, if_neg (by omega), if_neg (by omega)]
  by_cases first : code / 4096 = 0
  · exact ⟨0xA0, 0xBF, by simp [first], by omega, by omega⟩
  by_cases surrogates : code / 4096 = 0xD
  · exact ⟨0x80, 0x9F, by simp [surrogates], by omega, by omega⟩
  refine ⟨0x80, 0xBF, ?_, by omega, by omega⟩
  rw [if_neg (by omega), if_neg (by omega), if_pos (by omega), Nat.add_sub_cancel]

theorem readSequence_three (above : 0x7FF < code) (below : code ≤ 0xFFFF)
    (scalar : code < 0xD800 ∨ 0xDFFF < code) (rest : List UInt8) :
    readSequence (UInt8.ofNat (code / 4096 % 0x10 + 0xE0))
      (tailByte (code / 64) :: tailByte code :: rest) = .character code 3 := by
  have lead : (UInt8.ofNat (code / 4096 % 0x10 + 0xE0)).toNat = code / 4096 + 0xE0 := by
    rw [UInt8.toNat_ofNat']
    omega
  obtain ⟨low, high, shape, atLeast, atMost⟩ := ofLead?_three above below scalar
  rw [← lead] at shape
  rw [readSequence_of_shape shape atLeast atMost, readTails_tailByte, readTails]
  congr 1
  omega

/-- Four bytes leave out the codes of three, and those after the last one. -/
theorem ofLead?_four (above : 0xFFFF < code) (below : code < 0x110000) :
    ∃ low high,
      Shape.ofLead? (code / 262144 + 0xF0) = some ⟨code / 262144, low, high, 2⟩ ∧
      low ≤ code / 4096 % 64 + 128 ∧ code / 4096 % 64 + 128 ≤ high := by
  rw [Shape.ofLead?, if_neg (by omega), if_neg (by omega), if_neg (by omega),
    if_neg (by omega), if_neg (by omega)]
  by_cases first : code / 262144 = 0
  · exact ⟨0x90, 0xBF, by simp [first], by omega, by omega⟩
  by_cases last : code / 262144 = 4
  · exact ⟨0x80, 0x8F, by simp [last], by omega, by omega⟩
  refine ⟨0x80, 0xBF, ?_, by omega, by omega⟩
  rw [if_neg (by omega), if_pos (by omega), Nat.add_sub_cancel]

theorem readSequence_four (above : 0xFFFF < code) (below : code < 0x110000)
    (rest : List UInt8) :
    readSequence (UInt8.ofNat (code / 262144 % 0x08 + 0xF0))
      (tailByte (code / 4096) :: tailByte (code / 64) :: tailByte code :: rest) =
        .character code 4 := by
  have lead : (UInt8.ofNat (code / 262144 % 0x08 + 0xF0)).toNat =
      code / 262144 + 0xF0 := by
    rw [UInt8.toNat_ofNat']
    omega
  obtain ⟨low, high, shape, atLeast, atMost⟩ := ofLead?_four above below
  rw [← lead] at shape
  rw [readSequence_of_shape shape atLeast atMost, readTails_tailByte,
    readTails_tailByte, readTails]
  congr 1
  omega

end Sequences

/-- The bytes of a character are read as one sequence, whatever follows. -/
theorem readSequence_encodeChar (character : Char) (rest : List UInt8) :
    ∃ lead tails, String.utf8EncodeChar character = lead :: tails ∧
      readSequence lead (tails ++ rest) =
        .character character.toNat (tails.length + 1) := by
  have scalar : character.toNat < 0xD800 ∨
      0xDFFF < character.toNat ∧ character.toNat < 0x110000 := character.valid
  have encoded : String.utf8EncodeChar character =
      if character.toNat ≤ 0x7F then [UInt8.ofNat character.toNat]
      else if character.toNat ≤ 0x7FF then
        [UInt8.ofNat (character.toNat / 64 % 0x20 + 0xC0), tailByte character.toNat]
      else if character.toNat ≤ 0xFFFF then
        [UInt8.ofNat (character.toNat / 4096 % 0x10 + 0xE0),
          tailByte (character.toNat / 64), tailByte character.toNat]
      else
        [UInt8.ofNat (character.toNat / 262144 % 0x08 + 0xF0),
          tailByte (character.toNat / 4096), tailByte (character.toNat / 64),
          tailByte character.toNat] := rfl
  rw [encoded]
  split
  next below => exact ⟨_, _, rfl, readSequence_one below _⟩
  next above =>
    split
    next below => exact ⟨_, _, rfl, readSequence_two (by omega) below _⟩
    next above =>
      split
      next below => exact ⟨_, _, rfl, readSequence_three (by omega) below (by omega) _⟩
      next above => exact ⟨_, _, rfl, readSequence_four (by omega) (by omega) _⟩

theorem decodeFrom_encode (position : Nat) (text : List Char) :
    decodeFrom position (encode text) = .ok text := by
  induction text generalizing position with
  | nil => rw [encode, List.flatMap_nil, decodeFrom]
  | cons character rest ih =>
      obtain ⟨lead, tails, encoded, found⟩ :=
        readSequence_encodeChar character (encode rest)
      have bytes : encode (character :: rest) = lead :: (tails ++ encode rest) := by
        rw [encode, List.flatMap_cons, encoded]
        rfl
      rw [bytes, decodeFrom, found]
      simp only [Nat.add_sub_cancel, List.drop_left, ih]
      rw [Except.map, Char.ofNat_toNat]

/-- Decoding undoes encoding. -/
theorem decode_encode (text : List Char) : decode (encode text) = .ok text :=
  decodeFrom_encode 0 text

end Utf8

namespace Text

theorem splitLines_break {character : Char} (isBreak : isLineBreak character = true)
    {rest : List Char} (unpaired : ∀ after, character = '\r' → rest ≠ '\n' :: after) :
    splitLines (character :: rest) = [] :: splitLines rest := by
  rw [splitLines, if_pos isBreak]
  exact fun after isReturn => unpaired after isReturn

theorem splitLines_cons_congr {character : Char} (notReturn : character ≠ '\r')
    {first second : List Char} (same : splitLines first = splitLines second) :
    splitLines (character :: first) = splitLines (character :: second) := by
  have unpaired : ∀ rest after : List Char, character = '\r' → rest = '\n' :: after →
      False := fun _ _ isReturn => absurd isReturn notReturn
  rw [splitLines.eq_3 character first (unpaired first), same,
    splitLines.eq_3 character second (unpaired second)]

/-- Unifying line ends keeps the division into lines.  A carriage return is one
boundary as the line feed it becomes, with or without the line feed after it. -/
theorem splitLines_unifyNewlines (text : List Char) :
    splitLines (unifyNewlines text) = splitLines text := by
  have feed : ∀ rest : List Char, splitLines ('\n' :: rest) = [] :: splitLines rest :=
    fun rest => splitLines_break (by decide) (by simp)
  fun_induction unifyNewlines text with
  | case1 => rfl
  | case2 rest ih => rw [feed, ih, splitLines]
  | case3 character rest unpaired ih =>
      by_cases isReturn : character = '\r'
      -- A lone carriage return: no line feed follows it that could be its second half.
      · subst isReturn
        rw [if_pos rfl, feed, ih, splitLines_break (by decide)]
        exact fun after same paired => unpaired after same paired
      · rw [if_neg isReturn]
        exact splitLines_cons_congr isReturn ih

end Text

/-- Reading a file divides into the lines of the text that it holds, whatever
the block size.  A size of zero takes none of it. -/
theorem TextFile.exists_read_eq_ok {size : Int} {content : List UInt8} {text : String}
    (fits : HostWord.fits size = true) (decoded : Utf8.decode content = .ok text.toList) :
    ∃ taken, read size content = .ok taken ∧
      Text.lines taken = Text.lines (if size = 0 then "" else text) := by
  rw [read, if_neg (by simp [fits])]
  by_cases zero : size = 0
  · rw [if_pos zero, if_pos zero]
    exact ⟨"", rfl, rfl⟩
  · rw [if_neg zero, if_neg zero, decode, decoded]
    refine ⟨String.ofList (Text.unifyNewlines text.toList), ?_, ?_⟩
    · change Except.ok (String.ofList (takeBlocks size _).flatten) = _
      rw [flatten_takeBlocks zero]
    · rw [Text.lines, String.toList_ofList, Text.splitLines_unifyNewlines, Text.lines]

end StackCompiler
