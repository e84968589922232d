import Mathlib.Data.List.Basic
import StackCompiler.Command.Parser
import StackCompiler.Machine.Basic
import StackCompiler.Proofs.GeneratedCode
import StackCompiler.Proofs.Trimming

/-!
# Printed code

The machine runs lines of text: it trims each line, skips comments, and reads
the rest as instructions.  This file shows that the text stands in no one's
way.  A printed instruction is read back as itself, and the instructions that
code generation prints are not changed by trimming, whatever the script is
called.
-/

namespace StackCompiler

namespace Text

theorem splitFirst_of_notMem {separator : Char} {text : List Char}
    (absent : separator ∉ text) : splitFirst separator text = (text, none) := by
  induction text with
  | nil => rfl
  | cons character rest ih =>
      rw [List.mem_cons, not_or] at absent
      rw [splitFirst, if_neg (Ne.symm absent.1), ih absent.2]

theorem splitFirst_append {separator : Char} {before : List Char}
    (absent : separator ∉ before) (after : List Char) :
    splitFirst separator (before ++ separator :: after) = (before, some after) := by
  induction before with
  | nil => simp [splitFirst]
  | cons character rest ih =>
      rw [List.mem_cons, not_or] at absent
      rw [List.cons_append, splitFirst, if_neg (Ne.symm absent.1), ih absent.2]

end Text

/-- The characters of which no printed computation or destination is made. -/
def isMark (character : Char) : Bool :=
  character == '@' || character == ';' || character == '=' ||
    character == '/' || Text.isBlank character

theorem Operand.character_unmarked (operand : Operand) :
    isMark operand.character = false := by
  cases operand <;> decide

theorem Operator.character_unmarked (operator : Operator) :
    isMark operator.character = false := by
  cases operator <;> decide

theorem Computation.render_unmarked (computation : Computation) :
    ∀ character ∈ computation.render.toList, isMark character = false := by
  have minus : isMark '-' = false := by decide
  have complement : isMark '!' = false := by decide
  cases computation <;>
    simp [render, Operand.character_unmarked, Operator.character_unmarked,
      minus, complement]

theorem Computation.render_ne_nil (computation : Computation) :
    computation.render.toList ≠ [] := by
  cases computation <;> simp [render]

theorem Destination.render_unmarked (destination : Destination) :
    ∀ character ∈ destination.render.toList, isMark character = false := by
  have unmarked : (destination.render.toList.all
      fun character => !isMark character) = true := by
    obtain ⟨address, memory, data⟩ := destination
    cases address <;> cases memory <;> cases data <;> decide
  simpa using unmarked

namespace Instruction

theorem parse_of_unmarked {text : String}
    (noLoad : '@' ∉ text.toList.head?) (noJump : ';' ∉ text.toList) :
    parse text =
      match Text.splitFirst '=' text.toList with
      | (computation, none) =>
          (Computation.parse computation).map (compute .nowhere)
      | (destination, some computation) =>
          (Computation.parse computation).map
            (compute (Destination.parse destination)) := by
  rw [parse]
  split
  next symbol loads =>
    rw [loads] at noLoad
    exact absurd rfl noLoad
  next => exact if_neg (by simpa using noJump)

theorem notMem_of_unmarked {text : List Char} {mark : Char}
    (unmarked : ∀ character ∈ text, isMark character = false)
    (isMarked : isMark mark = true) : mark ∉ text := by
  intro member
  rw [unmarked mark member] at isMarked
  cases isMarked

/-- A printed instruction is read back. -/
theorem parse_render (instruction : Instruction) :
    parse instruction.render = .ok instruction := by
  cases instruction with
  | load symbol => simp [render, parse]
  | compute destination computation =>
      have unmarkedSource := computation.render_unmarked
      have unmarkedTarget := destination.render_unmarked
      by_cases nowhere : destination = .nowhere
      · have printed : (compute destination computation).render =
            computation.render := if_pos nowhere
        rw [printed, parse_of_unmarked, Text.splitFirst_of_notMem]
        · simp [Computation.parse_render, Except.map, nowhere]
        · exact notMem_of_unmarked unmarkedSource rfl
        · exact fun isHead => notMem_of_unmarked unmarkedSource rfl
            (List.mem_of_mem_head? isHead)
        · exact notMem_of_unmarked unmarkedSource rfl
      · have printed : (compute destination computation).render.toList =
            destination.render.toList ++ '=' :: computation.render.toList := by
          rw [render, if_neg nowhere]
          simp
        have absent : ∀ mark ∈ ['@', ';'],
            mark ∉ destination.render.toList ++ '=' :: computation.render.toList := by
          intro mark isOne
          have isMarked : isMark mark = true ∧ mark ≠ '=' := by
            rcases List.mem_pair.mp isOne with rfl | rfl
            · decide
            · decide
          rw [List.mem_append, List.mem_cons]
          rintro (inTarget | isEquals | inSource)
          · exact notMem_of_unmarked unmarkedTarget isMarked.1 inTarget
          · exact isMarked.2 isEquals
          · exact notMem_of_unmarked unmarkedSource isMarked.1 inSource
        rw [parse_of_unmarked, printed, Text.splitFirst_append]
        · simp [Computation.parse_render, Destination.parse_render, Except.map]
        · exact notMem_of_unmarked unmarkedTarget rfl
        · rw [printed]
          exact fun isHead => absent '@' (by simp) (List.mem_of_mem_head? isHead)
        · rw [printed]
          exact absent ';' (by simp)

/-- Whether trimming leaves a printed instruction as it is. -/
def IsTrim : Instruction → Prop
  | load symbol =>
      ∀ character ∈ symbol.toList.getLast?, Text.isBlank character = false
  | compute .. => True

theorem visible_of_unmarked {character : Char} (unmarked : isMark character = false) :
    Text.isBlank character = false ∧ character ≠ '/' := by
  simp only [isMark, Bool.or_eq_false_iff, beq_eq_false_iff_ne] at unmarked
  exact ⟨unmarked.2, unmarked.1.2⟩

theorem render_compute_visible (destination : Destination)
    (computation : Computation) :
    ∀ character ∈ (compute destination computation).render.toList,
      Text.isBlank character = false ∧ character ≠ '/' := by
  intro character member
  rw [render] at member
  split at member
  · exact visible_of_unmarked (computation.render_unmarked character member)
  · simp only [String.toList_append, List.mem_append] at member
    rcases member with (inTarget | isEquals) | inSource
    · exact visible_of_unmarked (destination.render_unmarked character inTarget)
    · obtain rfl : character = '=' := by simpa using isEquals
      decide
    · exact visible_of_unmarked (computation.render_unmarked character inSource)

theorem render_compute_ne_nil (destination : Destination)
    (computation : Computation) :
    (compute destination computation).render.toList ≠ [] := by
  rw [render]
  split
  · exact computation.render_ne_nil
  · simp

theorem render_load_last {symbol : String} (tight : (load symbol).IsTrim) :
    ∀ character ∈ (load symbol).render.toList.getLast?,
      Text.isBlank character = false := by
  have printed : (load symbol).render.toList = '@' :: symbol.toList := by
    simp [render]
  rw [printed, List.getLast?_cons]
  intro character isLast
  cases symbolLast : symbol.toList.getLast? with
  | none =>
      rw [symbolLast] at isLast
      cases isLast
      decide
  | some last =>
      rw [symbolLast] at isLast
      cases isLast
      exact tight last symbolLast

theorem render_ends {instruction : Instruction} (tight : instruction.IsTrim) :
    (∃ first rest, instruction.render.toList = first :: rest ∧
      Text.isBlank first = false ∧ first ≠ '/') ∧
    ∀ character ∈ instruction.render.toList.getLast?,
      Text.isBlank character = false := by
  cases instruction with
  | load symbol =>
      refine ⟨⟨'@', symbol.toList, by simp [render], by decide, by decide⟩, ?_⟩
      exact render_load_last tight
  | compute destination computation =>
      have visible := render_compute_visible destination computation
      constructor
      · obtain ⟨first, rest, printed⟩ :=
          List.exists_cons_of_ne_nil (render_compute_ne_nil destination computation)
        exact ⟨first, rest, printed, visible first (by simp [printed])⟩
      · intro character isLast
        exact (visible character (List.mem_of_mem_getLast? isLast)).1

theorem isBlank_of_isDigit {character : Char} (digit : character.isDigit = true) :
    Text.isBlank character = false := by
  have range : 48 ≤ character.toNat ∧ character.toNat ≤ 57 := by
    simpa [Char.isDigit, UInt32.le_iff_toNat_le] using digit
  simp [Text.isBlank]
  omega

theorem isTrim_load_of_numeral {symbol : String} {front : List Char} {number : Nat}
    (shape : symbol.toList = front ++ Nat.toDigits 10 number) :
    (load symbol).IsTrim := by
  intro character isLast
  rw [shape, List.getLast?_append_of_ne_nil _ Nat.toDigits_ne_nil] at isLast
  exact isBlank_of_isDigit (Nat.isDigit_of_mem_toDigits (by decide) (by decide)
    (List.mem_of_mem_getLast? isLast))

/-- Trimming leaves every generated instruction as it is. -/
theorem Emitted.isTrim {script : String} {instruction : Instruction}
    (emitted : instruction.Emitted script) : instruction.IsTrim := by
  cases emitted with
  | @number number small =>
      have shape : (toString number).toList = [] ++ Nat.toDigits 10 number := by
        simp
      exact isTrim_load_of_numeral shape
  | @cell name member =>
      have tight : (Address.reserved.all fun name =>
          name.toList.getLast?.all fun character => !Text.isBlank character) = true := by
        decide
      intro character isLast
      have visible := List.all_eq_true.mp tight name member
      rw [Option.mem_def.mp isLast] at visible
      simpa using visible
  | @static index small =>
      have shape : (Address.staticSymbol script index).toList =
          (script ++ ".").toList ++ Nat.toDigits 10 index := by
        simp [Address.staticSymbol, toString, Int.repr]
      exact isTrim_load_of_numeral shape
  | compute => exact trivial

end Instruction

namespace Machine

/-- A printed instruction is the instruction text of its line. -/
theorem instructionText?_render {instruction : Instruction}
    (tight : instruction.IsTrim) :
    instructionText? instruction.render = some instruction.render := by
  obtain ⟨⟨first, rest, printed, visible, noComment⟩, lastVisible⟩ :=
    Instruction.render_ends tight
  have kept : Text.trim instruction.render.toList = instruction.render.toList := by
    apply Text.trim_eq_self _ lastVisible
    rw [printed]
    rintro character ⟨⟩
    exact visible
  rw [instructionText?, kept, printed]
  split
  next empty => cases empty
  next comment =>
    injection comment with isSlash
    exact absurd isSlash noComment
  next => rw [← printed, String.ofList_toList]

theorem instructionText?_comment (comment : String) :
    instructionText? ("// " ++ comment) = none := by
  have characters : ("// " ++ comment).toList = '/' :: '/' :: ' ' :: comment.toList := by
    simp
  obtain ⟨kept, trimmed⟩ := Text.exists_trim_cons_cons
    (by decide : Text.isBlank '/' = false) (by decide : Text.isBlank '/' = false)
    (' ' :: comment.toList)
  rw [instructionText?, characters, trimmed]
  rfl

end Machine

end StackCompiler
