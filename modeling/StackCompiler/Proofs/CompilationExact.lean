import Mathlib.Data.List.Forall2
import StackCompiler.Proofs.LinePass
import StackCompiler.Proofs.SourceLines
import StackCompiler.Proofs.Verdict

/-!
# Exactness of compiling a source

A source is compiled line by line, and the outcome says exactly what became of
each line.  The lines that hold anything are visited in order under their
places in the whole source.  Each of them that fails is reported once, with its
place, its text and the category of its failure, and a program exists if and
only if there is nothing to report.
-/

namespace StackCompiler

/-- The commands of a source, in order.  Lines that are no command are left
out. -/
def sourceCommands (lines : List String) : List Command :=
  (cleanedLines lines).filterMap fun text => (Command.parse text).toOption

namespace SourceLine

theorem oversize?_eq_none {line : SourceLine}
    (short : Command.ShortIndex line.text) : line.oversize? = none := by
  rw [oversize?]
  rcases Command.parse_ok_or_malformed short with ⟨command, parsed⟩ | ⟨cause, parsed⟩
  · rw [parsed]
  · rw [parsed]

theorem complaint?_eq_some_iff {script : String} {policy : StaticPolicy}
    {line : SourceLine} {complaint : Complaint} :
    line.complaint? script policy = some complaint ↔
      complaint.line = line ∧
        compileLine script policy line.text = .error (.rejected complaint.cause) := by
  obtain ⟨place, cause⟩ := complaint
  rw [complaint?]
  split
  next rejection failed =>
    rw [failed]
    simp [eq_comm]
  next other =>
    constructor
    · intro impossible
      cases impossible
    · rintro ⟨_, failed⟩
      exact absurd failed (other cause)

theorem exists_compileLine_eq_ok {script : String} {policy : StaticPolicy}
    {line : SourceLine} (sized : line.oversize? = none)
    (accepted : line.complaint? script policy = none) :
    ∃ block, compileLine script policy line.text = .ok block := by
  cases outcome : compileLine script policy line.text with
  | ok block => exact ⟨block, rfl⟩
  | error fault =>
      exfalso
      cases fault with
      | rejected cause => simp [complaint?, outcome] at accepted
      | oversizeIndex oversize =>
          rw [oversize?_eq script policy, outcome] at sized
          cases sized

end SourceLine

theorem forall₂_filterMap_block? {script : String} {policy : StaticPolicy}
    {source : List SourceLine}
    (compiled : ∀ line ∈ source,
      ∃ block, compileLine script policy line.text = .ok block) :
    List.Forall₂
      (fun line block => compileLine script policy line.text = .ok block)
      source (source.filterMap (SourceLine.block? script policy)) := by
  induction source with
  | nil => exact .nil
  | cons line rest ih =>
      obtain ⟨block, outcome⟩ := compiled line (by simp)
      have found : line.block? script policy = some block := by
        rw [SourceLine.block?, outcome]
        rfl
      rw [List.filterMap_cons, found]
      exact .cons outcome (ih fun other member => compiled other (by simp [member]))

theorem forall₂_of_compiled {script : String} {policy : StaticPolicy}
    {lines : List String} {program : Program}
    (accepted : compile script policy lines = .ok (.compiled program)) :
    List.Forall₂ (fun text block => compileLine script policy text = .ok block)
      (cleanedLines lines) program.blocks := by
  have sized := (compile_eq_ok_iff.mp accepted).1
  have uncomplained := List.filterMap_eq_nil_iff.mp (complaints_of_compile accepted).symm
  have whole : some program = some _ := program?_of_compile accepted
  cases whole
  rw [← sourceLines_map_text, List.forall₂_map_left_iff]
  refine forall₂_filterMap_block? fun line member => ?_
  exact SourceLine.exists_compileLine_eq_ok (sized line member) (uncomplained line member)

theorem exists_command_of_compileLine {script : String} {policy : StaticPolicy}
    {text : String} {block : Block}
    (compiled : compileLine script policy text = .ok block) :
    ∃ command, Command.parse text = .ok command ∧
      Codegen.block script policy command = .ok block := by
  rw [compileLine] at compiled
  split at compiled
  next => cases compiled
  next => cases compiled
  next command parsed =>
    refine ⟨command, parsed, ?_⟩
    cases generated : Codegen.block script policy command with
    | ok code => simpa [generated, Except.mapError] using compiled
    | error cause => simp [generated, Except.mapError] at compiled

/-- An accepted source has one block for each of its commands, in order, and
every index can be loaded. -/
theorem forall₂_commands_of_compiled {script : String} {policy : StaticPolicy}
    {lines : List String} {program : Program}
    (accepted : compile script policy lines = .ok (.compiled program)) :
    List.Forall₂
      (fun command block => Codegen.block script policy command = .ok block ∧
        ∀ index ∈ command.index?, index ≤ maxIndex)
      (sourceCommands lines) program.blocks := by
  have compiled := forall₂_of_compiled accepted
  rw [sourceCommands]
  generalize cleanedLines lines = texts, program.blocks = blocks at compiled ⊢
  induction compiled with
  | nil => exact .nil
  | cons outcome _ ih =>
      obtain ⟨command, parsed, generated⟩ := exists_command_of_compileLine outcome
      rw [List.filterMap_cons, parsed]
      exact .cons ⟨generated, Command.index_le_of_parse parsed⟩ ih

/-- The diagnostics of the rejected lines, in order. -/
def Compilation.diagnostics (compilation : Compilation) : List Diagnostic :=
  compilation.complaints.map Complaint.diagnostic

/-- What the outcome of compiling a source says about its lines. -/
structure Compilation.Exact (script : String) (policy : StaticPolicy)
    (lines : List String) (compilation : Compilation) : Prop where
  /-- The diagnostics have strictly increasing line numbers. -/
  ordered : compilation.diagnostics.Pairwise fun earlier later =>
    ∃ first second : Int,
      earlier.line = some first ∧ later.line = some second ∧ first < second
  /-- Every diagnostic is about a line that fails in its category, and carries
  the place and the cleaned text of that line. -/
  sound : ∀ diagnostic ∈ compilation.diagnostics, ∃ (number : Nat) (text : String),
    HoldsAt lines number text ∧ LineFails policy text diagnostic.category ∧
      diagnostic.line = some (number : Int) ∧ diagnostic.text = some text
  /-- Every line that fails has a diagnostic. -/
  complete : ∀ (number : Nat) (text : String) (category : Category),
    HoldsAt lines number text → LineFails policy text category →
      ∃ diagnostic ∈ compilation.diagnostics, diagnostic.category = category ∧
        diagnostic.line = some (number : Int) ∧ diagnostic.text = some text
  /-- There is no program exactly if there is a diagnostic. -/
  unprogrammed : compilation.program? = none ↔ compilation.diagnostics ≠ []
  /-- A program has one block for each cleaned line, in order, and each is the
  block of the command on its line. -/
  blocks : ∀ program, compilation.program? = some program →
    List.Forall₂
      (fun text block => ∃ command, Command.parse text = .ok command ∧
        Codegen.block script policy command = .ok block)
      (cleanedLines lines) program.blocks
  /-- The lines are visited in strictly increasing order. -/
  visitedOrdered : (visitedLines script policy lines).Pairwise fun earlier later =>
    earlier.number < later.number
  /-- The visited lines are all lines with something left after cleaning. -/
  visited : ∀ (number : Nat) (text : String),
    ⟨number, text⟩ ∈ visitedLines script policy lines ↔ HoldsAt lines number text

section Exactness

variable {script : String} {policy : StaticPolicy} {lines : List String}

theorem shortIndex_of_mem_sourceLines
    (short : ∀ raw ∈ lines, Command.ShortIndex (cleanLine raw))
    {line : SourceLine} (member : line ∈ sourceLines lines) :
    Command.ShortIndex line.text := by
  obtain ⟨index, raw, found, _, cleaned, _⟩ := mem_sourceLines_iff.mp member
  rw [cleaned]
  exact short raw (List.mem_of_getElem? found)

/-- Without an oversize index, compiling succeeds, and its complaints are those
of the source lines. -/
theorem exists_compile_eq_ok (script : String) (policy : StaticPolicy)
    (sized : ∀ line ∈ sourceLines lines, line.oversize? = none) :
    ∃ compilation, compile script policy lines = .ok compilation ∧
      compilation.complaints =
        (sourceLines lines).filterMap (SourceLine.complaint? script policy) ∧
      (compilation.program? = none ↔ compilation.complaints ≠ []) := by
  refine ⟨_, compile_eq_ok_iff.mpr ⟨sized, rfl⟩, Compilation.complaints_conclude _ _, ?_⟩
  rw [Compilation.complaints_conclude, Compilation.program?_conclude]
  simp

theorem exists_program?_iff {compilation : Compilation}
    (compiled : compile script policy lines = .ok compilation) :
    (∃ program, compilation.program? = some program) ↔ compilation.complaints = [] := by
  rw [program?_of_compile compiled]
  split
  next accepted => simp [accepted]
  next rejected => simp [rejected]

theorem complaints_pairwise (lines : List String) :
    ((sourceLines lines).filterMap (SourceLine.complaint? script policy)).Pairwise
      fun earlier later => earlier.line.number < later.line.number := by
  refine List.Pairwise.filterMap _ ?_ (sourceLines_pairwise lines)
  intro earlier later ordered first firstMade second secondMade
  rw [(SourceLine.complaint?_eq_some_iff.mp firstMade).1,
    (SourceLine.complaint?_eq_some_iff.mp secondMade).1]
  exact ordered

theorem lineFails_iff_of_rejected {text : String} {cause : Rejection}
    (short : Command.ShortIndex text)
    (rejected : compileLine script policy text = .error (.rejected cause))
    {category : Category} :
    LineFails policy text category ↔ category = cause.category := by
  rcases compileLine_cases script policy short with
    ⟨command, block, _, _, compiled, _⟩ | ⟨other, failed, fails⟩
  · rw [rejected] at compiled
    cases compiled
  · rw [rejected] at failed
    injection failed with sameFault
    injection sameFault with sameCause
    subst sameCause
    exact fails category

theorem exists_rejected_of_lineFails {text : String} {category : Category}
    (short : Command.ShortIndex text) (fails : LineFails policy text category) :
    ∃ cause : Rejection, cause.category = category ∧
      compileLine script policy text = .error (.rejected cause) := by
  rcases compileLine_cases script policy short with
    ⟨command, block, _, _, _, passes⟩ | ⟨cause, failed, failsIff⟩
  · exact absurd fails (passes category)
  · exact ⟨cause, ((failsIff category).mp fails).symm, failed⟩

/-- Compiling is exact.  In a source in which no index is beyond the digit
limit, every line that holds anything is visited at its place; exactly the
failing ones are reported, each once, in order and in its category; and there
is a program exactly if nothing is reported, with the block of each line. -/
theorem compile_exact (script : String) (policy : StaticPolicy)
    (lines : List String)
    (short : ∀ raw ∈ lines, Command.ShortIndex (cleanLine raw)) :
    ∃ compilation, compile script policy lines = .ok compilation ∧
      compilation.Exact script policy lines := by
  have shortLine : ∀ line ∈ sourceLines lines, Command.ShortIndex line.text :=
    fun line member => shortIndex_of_mem_sourceLines short member
  have sized : ∀ line ∈ sourceLines lines, line.oversize? = none :=
    fun line member => SourceLine.oversize?_eq_none (shortLine line member)
  have visits : visitedLines script policy lines = sourceLines lines := by
    rw [visitedLines_eq, upToOversize_eq_self sized]
  obtain ⟨compilation, compiled, complaints, unprogrammed⟩ :=
    exists_compile_eq_ok script policy sized
  have diagnostics : compilation.diagnostics =
      ((sourceLines lines).filterMap (SourceLine.complaint? script policy)).map
        Complaint.diagnostic := by
    rw [Compilation.diagnostics, complaints]
  refine ⟨compilation, compiled, ?_, ?_, ?_, ?_, ?_, ?_, ?_⟩
  · rw [diagnostics, List.pairwise_map]
    refine (complaints_pairwise lines).imp ?_
    intro earlier later ordered
    exact ⟨_, _, rfl, rfl, by exact_mod_cast ordered⟩
  · intro diagnostic member
    rw [diagnostics] at member
    obtain ⟨complaint, complaintMem, rfl⟩ := List.mem_map.mp member
    obtain ⟨line, lineMem, made⟩ := List.mem_filterMap.mp complaintMem
    obtain ⟨rfl, failed⟩ := SourceLine.complaint?_eq_some_iff.mp made
    refine ⟨complaint.line.number, complaint.line.text,
      mem_sourceLines_iff.mp lineMem, ?_, rfl, rfl⟩
    exact (lineFails_iff_of_rejected (shortLine _ lineMem) failed).mpr rfl
  · intro number text category holds fails
    have lineMem := mem_sourceLines_iff.mpr holds
    obtain ⟨cause, rfl, failed⟩ :=
      exists_rejected_of_lineFails (shortLine _ lineMem) fails
    let complaint : Complaint := ⟨⟨number, text⟩, cause⟩
    have made : SourceLine.complaint? script policy ⟨number, text⟩ =
        some complaint := SourceLine.complaint?_eq_some_iff.mpr ⟨rfl, failed⟩
    refine ⟨complaint.diagnostic, ?_, rfl, rfl, rfl⟩
    rw [diagnostics]
    exact List.mem_map_of_mem (List.mem_filterMap.mpr ⟨_, lineMem, made⟩)
  · simpa [Compilation.diagnostics] using unprogrammed
  · intro program programmed
    cases compilation with
    | rejected first others => cases programmed
    | compiled found =>
        cases programmed
        exact (forall₂_of_compiled compiled).imp fun text block =>
          exists_command_of_compileLine
  · rw [visits]
    exact sourceLines_pairwise lines
  · intro number text
    rw [visits]
    exact mem_sourceLines_iff

/-- Blank lines and comments, a good line, and one failing line of each
category. -/
theorem compile_exact_mixed :
    let lines := ["// sum", "push constant 1", "push nosuch 3", "",
      "pop constant 0", "add // x", "push static 2"]
    (∀ raw ∈ lines, Command.ShortIndex (cleanLine raw)) ∧
      ∃ compilation, compile "Prog" .reject lines = .ok compilation ∧
        compilation.Exact "Prog" .reject lines := by
  intro lines
  have short : ∀ raw ∈ lines, Command.ShortIndex (cleanLine raw) := by
    intro raw member
    have brief : ∀ raw ∈ lines, (cleanLine raw).toList.length ≤ 100 := by decide
    exact Command.shortIndex_of_length ((brief raw member).trans (by decide))
  exact ⟨short, compile_exact "Prog" .reject lines short⟩

end Exactness

end StackCompiler
