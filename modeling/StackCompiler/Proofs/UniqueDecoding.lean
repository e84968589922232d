import StackCompiler.Proofs.AddressIdentity
import StackCompiler.Proofs.CompilationExact
import StackCompiler.Proofs.PrintedCode

/-!
# Decoding generated code

The instructions of a program determine its commands, even without the comments
between them.  No code of a command is empty, and none is the beginning of the
code of another command, so that the codes in a sequence can be told apart one
by one.  Which form a code has shows in its second and fourth instruction, and
what it loads is an address, which belongs to one cell of one segment only.
-/

namespace StackCompiler

namespace Codegen

section Codes

attribute [local simp] combineTop pushData popData loadData popDirect popIndirect
  setMemory setAddress setData

variable {script : String} {command other : Command}
  {code otherCode rest others : List Instruction}

theorem Emits.ne_nil (emits : Emits script command code) : code ≠ [] := by
  cases emits <;> simp

theorem push_append_inj {address again : Address}
    (same : loadData address ++ pushData ++ rest = loadData again ++ pushData ++ others) :
    address = again ∧ rest = others := by
  cases address <;> cases again <;> simp at same ⊢
  · exact ⟨⟨same.1, same.2.1⟩, same.2.2⟩
  · exact same
  · exact same

/-- The code of a command ends where it ends, and no other command has it. -/
theorem Emits.append_inj (emits : Emits script command code)
    (otherEmits : Emits script other otherCode) (same : code ++ rest = otherCode ++ others) :
    command = other ∧ rest = others := by
  -- Codes of different forms differ in their second or their fourth instruction.
  cases emits with
  | add | sub =>
      cases otherEmits with
      | push otherForm => cases otherForm <;> simp at same
      | _ => simp_all
  | push form =>
      cases otherEmits with
      | push otherForm =>
          obtain ⟨addresses, rests⟩ := push_append_inj same
          obtain ⟨rfl, rfl, _⟩ := form.unique otherForm addresses
          exact ⟨rfl, rests⟩
      | _ => cases form <;> simp at same
  | popDirect form =>
      cases otherEmits with
      | popDirect otherForm =>
          obtain ⟨symbols, rests⟩ : _ ∧ rest = others := by simpa using same
          obtain ⟨rfl, rfl, _⟩ := form.unique otherForm (congrArg Address.direct symbols)
          exact ⟨rfl, rests⟩
      | push otherForm => cases otherForm <;> simp at same
      | _ => simp at same
  | popIndirect form =>
      cases otherEmits with
      | popIndirect otherForm =>
          obtain ⟨bases, offsets, rests⟩ : _ ∧ _ ∧ rest = others := by simpa using same
          obtain ⟨rfl, rfl, _⟩ := form.unique otherForm
            (congrArg₂ Address.indirect bases offsets)
          exact ⟨rfl, rests⟩
      | push otherForm => cases otherForm <;> simp at same
      | _ => simp at same

/-- A sequence of codes determines the commands in it. -/
theorem commands_unique {commands otherCommands : List Command}
    {codes otherCodes : List (List Instruction)}
    (emits : List.Forall₂ (Emits script) commands codes)
    (otherEmits : List.Forall₂ (Emits script) otherCommands otherCodes)
    (same : codes.flatten = otherCodes.flatten) : commands = otherCommands := by
  induction emits generalizing otherCommands otherCodes with
  | nil =>
      cases otherEmits with
      | nil => rfl
      | cons first _ => simp [first.ne_nil] at same
  | cons first _ ih =>
      cases otherEmits with
      | nil => simp [first.ne_nil] at same
      | cons otherFirst otherLater =>
          rw [List.flatten_cons, List.flatten_cons] at same
          obtain ⟨rfl, rests⟩ := first.append_inj otherFirst same
          rw [ih otherLater rests]

end Codes

end Codegen

/-- Whether a line of assembly is a comment. -/
def isCommentLine (line : String) : Bool :=
  ['/', '/'].isPrefixOf line.toList

/-- The lines of a program that are no comments. -/
def Program.instructionLines (program : Program) : List String :=
  program.lines.filter fun line => !isCommentLine line

theorem Instruction.render_injective : Function.Injective render := by
  intro first second same
  have parsed := parse_render first
  rw [same, parse_render second] at parsed
  injection parsed with equal
  exact equal.symm

theorem Instruction.isCommentLine_render (instruction : Instruction) :
    isCommentLine instruction.render = false := by
  have slashless : ∃ first rest, instruction.render.toList = first :: rest ∧ first ≠ '/' := by
    cases instruction with
    | load symbol => exact ⟨'@', symbol.toList, by simp [render], by decide⟩
    | compute destination computation =>
        obtain ⟨first, rest, printed⟩ :=
          List.exists_cons_of_ne_nil (render_compute_ne_nil destination computation)
        have visible := render_compute_visible destination computation first
          (by simp [printed])
        exact ⟨first, rest, printed, visible.2⟩
  obtain ⟨first, rest, printed, notSlash⟩ := slashless
  rw [isCommentLine, printed, List.isPrefixOf_cons_cons, beq_eq_false_iff_ne.mpr notSlash.symm]
  rfl

/-- Without its comment, a block is its code. -/
theorem Block.filter_lines (comment : String) (code : List Instruction) :
    (Block.ofInstructions comment code).lines.filter (fun line => !isCommentLine line) =
      code.map Instruction.render := by
  have isComment : isCommentLine ("// " ++ comment) = true := by
    simp [isCommentLine]
  have kept : ∀ line ∈ code.map Instruction.render, (!isCommentLine line) = true := by
    intro line member
    obtain ⟨instruction, _, rfl⟩ := List.mem_map.mp member
    rw [instruction.isCommentLine_render]
    rfl
  rw [Block.lines, Block.ofInstructions, List.filter_cons_of_neg (by simp [isComment]),
    List.filter_eq_self.mpr kept]

/-- The instructions of a program are the codes of its commands, in order. -/
theorem exists_codes_of_compiled {script : String} {policy : StaticPolicy}
    {lines : List String} {program : Program}
    (accepted : compile script policy lines = .ok (.compiled program)) :
    ∃ codes, List.Forall₂ (Codegen.Emits script) (sourceCommands lines) codes ∧
      program.instructionLines = codes.flatten.map Instruction.render := by
  have generated := forall₂_commands_of_compiled accepted
  rw [Program.instructionLines, Program.lines]
  generalize sourceCommands lines = commands, program.blocks = blocks at generated ⊢
  induction generated with
  | nil => exact ⟨[], .nil, rfl⟩
  | cons made _ ih =>
      obtain ⟨comment, code, rfl, emits⟩ := Codegen.emits_of_block made.1
      obtain ⟨codes, later, printed⟩ := ih
      refine ⟨code :: codes, .cons emits later, ?_⟩
      rw [List.flatMap_cons, List.filter_append, Block.filter_lines, printed,
        List.flatten_cons, List.map_append]

/-- Different programs have different assembly.  If two sources of a script are
accepted and their programs agree but for comments, then the sources hold the
same commands.  The code of a single command is not empty, and it is not the
beginning of the code of another one. -/
theorem assembly_determines_commands (script : String) :
    (∀ policy otherPolicy lines otherLines program otherProgram,
      compile script policy lines = .ok (.compiled program) →
      compile script otherPolicy otherLines = .ok (.compiled otherProgram) →
      program.instructionLines = otherProgram.instructionLines →
        sourceCommands lines = sourceCommands otherLines) ∧
    (∀ policy otherPolicy command otherCommand block otherBlock,
      Codegen.block script policy command = .ok block →
      Codegen.block script otherPolicy otherCommand = .ok otherBlock →
        block.body ≠ [] ∧ (block.body <+: otherBlock.body → command = otherCommand)) := by
  constructor
  · intro policy otherPolicy lines otherLines program otherProgram accepted otherAccepted same
    obtain ⟨codes, emits, printed⟩ := exists_codes_of_compiled accepted
    obtain ⟨otherCodes, otherEmits, otherPrinted⟩ := exists_codes_of_compiled otherAccepted
    rw [printed, otherPrinted] at same
    exact Codegen.commands_unique emits otherEmits
      (Instruction.render_injective.list_map same)
  · intro policy otherPolicy command otherCommand block otherBlock generated otherGenerated
    obtain ⟨comment, code, rfl, emits⟩ := Codegen.emits_of_block generated
    obtain ⟨otherComment, otherCode, rfl, otherEmits⟩ := Codegen.emits_of_block otherGenerated
    refine ⟨by simpa [Block.ofInstructions] using emits.ne_nil, fun opens => ?_⟩
    obtain ⟨rest, continued⟩ :=
      (List.prefix_map_iff_of_injective Instruction.render_injective).mp opens
    exact (emits.append_inj otherEmits (by rw [continued, List.append_nil])).1

/-- The same commands in two spellings, under two policies. -/
theorem assembly_determines_commands_respelled :
    let lines := ["push pointer 0 // base", "", "pop this 03"]
    let otherLines := ["push\tpointer 00", "pop this 3"]
    let program : Program := ⟨[Codegen.push .pointer (.direct "THIS"),
      .ofInstructions "Performing general pop" (Codegen.popIndirect "THIS" 3)]⟩
    compile "THIS" .symbols lines = .ok (.compiled program) ∧
      compile "THIS" .reject otherLines = .ok (.compiled program) ∧
      sourceCommands lines = sourceCommands otherLines := by
  intro lines otherLines program
  have accepted : compile "THIS" .symbols lines = .ok (.compiled program) := by
    decide +kernel
  have otherAccepted : compile "THIS" .reject otherLines = .ok (.compiled program) := by
    decide +kernel
  refine ⟨accepted, otherAccepted, ?_⟩
  exact (assembly_determines_commands "THIS").1 .symbols .reject lines otherLines program
    program accepted otherAccepted rfl

end StackCompiler
