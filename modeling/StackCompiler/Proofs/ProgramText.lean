import StackCompiler.Proofs.CommentExtent

/-!
# The text of a program

A program is written as one text, with a line feed after each of its lines, and
the text is read by dividing it at every kind of line break.  Nothing is lost as
long as no line holds a break of its own.  Generated code holds none unless the
name of the script does, so a machine may run the lines of the text in place of
the lines of the program.
-/

namespace StackCompiler

namespace Text

/-- The characters at which a text is divided into lines. -/
def lineBreaks : List Char :=
  ['\n', '\x0b', '\x0c', '\r', '\x1c', '\x1d', '\x1e', '\u0085', '\u2028', '\u2029']

theorem isLineBreak_iff_mem {character : Char} :
    isLineBreak character = true ↔ character ∈ lineBreaks := by
  constructor
  · intro isBreak
    have code : character.toNat ∈ lineBreaks.map Char.toNat := by
      simp only [isLineBreak, Bool.or_eq_true, Bool.and_eq_true, decide_eq_true_eq,
        beq_iff_eq] at isBreak
      simp only [lineBreaks, List.map_cons, List.map_nil, List.mem_cons]
      simp
      omega
    obtain ⟨other, member, same⟩ := List.mem_map.mp code
    rwa [← Char.toNat_inj.mp same]
  · have all : lineBreaks.all isLineBreak = true := by decide
    exact List.all_eq_true.mp all character

/-- Whether a text holds no line break. -/
def Unbroken (text : String) : Prop :=
  ∀ character ∈ text.toList, character ∉ lineBreaks

instance (text : String) : Decidable (Unbroken text) :=
  List.decidableBAll _ text.toList

theorem Unbroken.isLineBreak_eq_false {text : String} (unbroken : Unbroken text) :
    ∀ character ∈ text.toList, isLineBreak character = false := by
  intro character member
  rw [Bool.eq_false_iff, ne_eq, isLineBreak_iff_mem]
  exact unbroken character member

@[simp]
theorem unbroken_append_iff {first second : String} :
    Unbroken (first ++ second) ↔ Unbroken first ∧ Unbroken second := by
  simp only [Unbroken, String.toList_append, List.forall_mem_append]

/-- Every line break is a blank. -/
theorem isBlank_of_mem_lineBreaks :
    ∀ character ∈ lineBreaks, isBlank character = true :=
  List.all_eq_true.mp (by decide)

theorem unbroken_of_visible {text : String}
    (visible : ∀ character ∈ text.toList, isBlank character = false) :
    Unbroken text := by
  intro character member isBreak
  have blank := isBlank_of_mem_lineBreaks character isBreak
  rw [visible character member] at blank
  cases blank

theorem unbroken_toString (number : Nat) : Unbroken (toString number) := by
  apply unbroken_of_visible
  intro character member
  have digit : character ∈ Nat.toDigits 10 number := by simpa using member
  exact Instruction.isBlank_of_isDigit
    (Nat.isDigit_of_mem_toDigits (by decide) (by decide) digit)

/-- Lines that are closed by a line feed each are found again by dividing the
text. -/
theorem splitLines_flatMap {lines : List (List Char)}
    (unbroken : ∀ line ∈ lines, ∀ character ∈ line, isLineBreak character = false) :
    splitLines (lines.flatMap (· ++ ['\n'])) = lines := by
  induction lines with
  | nil => rfl
  | cons line others ih =>
      have remaining : splitLines ('\n' :: others.flatMap (· ++ ['\n'])) =
          [] :: others := by
        rw [splitLines_lineFeed, ih fun other member => unbroken other (by simp [member])]
      have whole := splitLines_append_eq (unbroken line (by simp)) remaining
      simpa using whole

end Text

namespace Program

/-- Whether the comments and the instructions of a program hold no line break. -/
def Unbroken (program : Program) : Prop :=
  ∀ block ∈ program.blocks,
    Text.Unbroken block.comment ∧ ∀ line ∈ block.body, Text.Unbroken line

instance (program : Program) : Decidable program.Unbroken :=
  inferInstanceAs (Decidable (∀ block ∈ program.blocks,
    Text.Unbroken block.comment ∧ ∀ line ∈ block.body, Text.Unbroken line))

theorem Unbroken.lines {program : Program} (unbroken : program.Unbroken) :
    ∀ line ∈ program.lines, Text.Unbroken line := by
  intro line member
  obtain ⟨block, inProgram, inBlock⟩ := List.mem_flatMap.mp member
  obtain ⟨comment, body⟩ := unbroken block inProgram
  rcases List.mem_cons.mp inBlock with rfl | inBody
  · exact Text.unbroken_append_iff.mpr ⟨by decide, comment⟩
  · exact body line inBody

theorem toList_text (program : Program) :
    program.text.toList =
      (program.lines.map String.toList).flatMap (· ++ ['\n']) := by
  simp [text, String.toList_join, List.flatMap_map]

/-- The lines of the text of a program are the lines of the program. -/
theorem lines_text {program : Program} (unbroken : program.Unbroken) :
    Text.lines program.text = program.lines := by
  have inside : ∀ line ∈ program.lines.map String.toList,
      ∀ character ∈ line, Text.isLineBreak character = false := by
    intro line member
    obtain ⟨printed, isLine, rfl⟩ := List.mem_map.mp member
    exact (unbroken.lines printed isLine).isLineBreak_eq_false
  rw [Text.lines, toList_text, Text.splitLines_flatMap inside, List.map_map]
  simp

theorem lines_eq_nil_iff {program : Program} :
    program.lines = [] ↔ program.blocks = [] := by
  rw [lines, List.flatMap_eq_nil_iff, List.eq_nil_iff_forall_not_mem]
  simp [Block.lines]

theorem text_eq_empty_iff {program : Program} :
    program.text = "" ↔ program.blocks = [] := by
  rw [← String.toList_eq_nil_iff, toList_text, List.flatMap_eq_nil_iff,
    ← lines_eq_nil_iff, List.eq_nil_iff_forall_not_mem]
  simp

theorem getLast?_text {program : Program} (nonempty : program.blocks ≠ []) :
    program.text.toList.getLast? = some '\n' := by
  rw [ne_eq, ← lines_eq_nil_iff] at nonempty
  rw [toList_text, ← List.dropLast_concat_getLast nonempty]
  simp

end Program

/-- The comment of the block of a command. -/
def Command.comment : Command → String
  | add | sub => "Performing general sub or add"
  | push segment _ => "Performing " ++ Codegen.pushWord segment ++ " push"
  | pop segment _ => "Performing " ++ Codegen.popWord segment ++ " pop"

theorem Command.comment_unbroken (command : Command) : Text.Unbroken command.comment := by
  cases command with
  | add | sub => decide
  | push segment index | pop segment index =>
      simp only [comment, Text.unbroken_append_iff]
      cases segment <;> decide

theorem Codegen.comment_of_block {script : String} {policy : StaticPolicy}
    {command : Command} {code : Block}
    (generated : Codegen.block script policy command = .ok code) :
    code.comment = command.comment := by
  cases command with
  | add | sub =>
      cases generated
      rfl
  | push segment index =>
      change (Address.ofSegment script policy segment index).map
        (Codegen.push segment) = .ok code at generated
      cases found : Address.ofSegment script policy segment index with
      | error cause =>
          rw [found] at generated
          cases generated
      | ok address =>
          rw [found] at generated
          cases generated
          rfl
  | pop segment index =>
      change memoryAccess script policy (.pop segment index) = .ok code at generated
      by_cases isConstant : segment = .constant
      · subst isConstant
        cases generated
      · rw [memoryAccess_pop script policy isConstant] at generated
        cases found : Address.ofSegment script policy segment index with
        | error cause =>
            rw [found] at generated
            cases generated
        | ok address =>
            rw [found] at generated
            cases address with
            | literal symbol => cases generated
            | direct symbol | indirect base offset =>
                cases generated
                rfl

/-- A printed instruction of generated code holds no line break unless the name
of the script does. -/
theorem Instruction.Emitted.unbroken {script : String} (plain : Text.Unbroken script)
    {instruction : Instruction} (emitted : instruction.Emitted script) :
    Text.Unbroken instruction.render := by
  have loads : ∀ symbol, Text.Unbroken symbol →
      Text.Unbroken (Instruction.load symbol).render := fun symbol unbroken =>
    Text.unbroken_append_iff.mpr ⟨by decide, unbroken⟩
  cases emitted with
  | number => exact loads _ (Text.unbroken_toString _)
  | @cell name member =>
      apply loads
      revert name
      decide
  | @static index =>
      apply loads
      have numeral : Text.Unbroken (toString (index : Int)) := Text.unbroken_toString index
      simp only [Address.staticSymbol, Text.unbroken_append_iff]
      exact ⟨⟨plain, by decide⟩, numeral⟩
  | compute destination computation =>
      apply Text.unbroken_of_visible
      intro character member
      exact (render_compute_visible destination computation character member).1

theorem Codegen.block_unbroken {script : String} {policy : StaticPolicy}
    {command : Command} {code : Block} (plain : Text.Unbroken script)
    (generated : Codegen.block script policy command = .ok code)
    (small : ∀ index ∈ command.index?, index ≤ maxIndex) :
    Text.Unbroken code.comment ∧ ∀ line ∈ code.body, Text.Unbroken line := by
  refine ⟨comment_of_block generated ▸ command.comment_unbroken, ?_⟩
  obtain ⟨_, instructions, rfl, emits⟩ := emits_of_block generated
  intro line inBody
  obtain ⟨instruction, member, rfl⟩ := List.mem_map.mp inBody
  exact (emits.emitted small instruction member).unbroken plain

/-- Generated code holds no line break unless the name of the script does. -/
theorem Program.unbroken_of_compiled {script : String} {policy : StaticPolicy}
    {lines : List String} {program : Program} (plain : Text.Unbroken script)
    (accepted : compile script policy lines = .ok (.compiled program)) :
    program.Unbroken := by
  have generated := forall₂_commands_of_compiled accepted
  rw [Program.Unbroken]
  generalize sourceCommands lines = commands, program.blocks = blocks at generated ⊢
  induction generated with
  | nil => simp
  | cons isBlock _ ih =>
      exact List.forall_mem_cons.mpr
        ⟨Codegen.block_unbroken plain isBlock.1 isBlock.2, ih⟩

/-- The text of a program is faithful.  If no line holds a line break, dividing
the text gives the lines back; the text is empty exactly if there is no block, and
ends with a line feed otherwise.  Every program that is compiled under a name
without a line break is of this kind, so running the divided text is running the
program. -/
theorem program_text_is_faithful :
    (∀ program : Program, program.Unbroken →
      Text.lines program.text = program.lines ∧
      (program.text = "" ↔ program.blocks = []) ∧
      (program.blocks ≠ [] → program.text.toList.getLast? = some '\n')) ∧
    ∀ (script : String) (policy : StaticPolicy) (lines : List String)
        (program : Program), Text.Unbroken script →
      compile script policy lines = .ok (.compiled program) →
      program.Unbroken ∧ ∀ machine : Machine,
        machine.run (Text.lines program.text) = machine.run program.lines := by
  constructor
  · intro program unbroken
    exact ⟨program.lines_text unbroken, program.text_eq_empty_iff, program.getLast?_text⟩
  · intro script policy lines program plain accepted
    have unbroken := Program.unbroken_of_compiled plain accepted
    refine ⟨unbroken, fun machine => ?_⟩
    rw [Program.lines_text unbroken]

/-- A program with an empty comment, an empty body and an empty instruction, and
a compiled one whose script has a name with a blank in it that is no line break. -/
theorem program_text_is_faithful_blank :
    let odd : Program := ⟨[⟨"", []⟩, ⟨"x", ["", "@SP "]⟩]⟩
    odd.Unbroken ∧ Text.lines odd.text = ["// ", "// x", "", "@SP "] ∧
      Text.Unbroken "My\u00a0Prog" ∧
      ∃ program, compile "My\u00a0Prog" .symbols ["push static 3", "", "add"] =
          .ok (.compiled program) ∧ program.Unbroken ∧
        ∀ machine : Machine,
          machine.run (Text.lines program.text) = machine.run program.lines := by
  intro odd
  have unbroken : odd.Unbroken := by decide
  have plain : Text.Unbroken "My\u00a0Prog" := by decide
  obtain ⟨faithful, compiles⟩ := program_text_is_faithful
  refine ⟨unbroken, (faithful odd unbroken).1, plain, _, rfl, ?_⟩
  exact compiles "My\u00a0Prog" .symbols ["push static 3", "", "add"] _ plain rfl

end StackCompiler
