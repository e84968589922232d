import StackCompiler.Proofs.DigitLimit

/-!
# What the static policy changes

The policy on the static segment is looked at for static cells only, and after
everything else that can be wrong with a line.  Switching the segment off
therefore adds one diagnostic for each line that states a static command, and
changes nothing about the others.  This file compares the two policies line by
line, and then on a whole source.
-/

namespace StackCompiler

namespace Codegen

theorem block_of_not_static (script : String) {command : Command}
    (notStatic : command.segment? ≠ some .static) :
    block script .reject command = block script .symbols command := by
  cases command with
  | add | sub => rfl
  | push segment index =>
      have same := Address.ofSegment_of_ne_static
        (fun isStatic => notStatic (congrArg some isStatic)) script script .reject .symbols
        index
      change (Address.ofSegment script .reject segment index).map _ =
        (Address.ofSegment script .symbols segment index).map _
      rw [same]
  | pop segment index =>
      have same := Address.ofSegment_of_ne_static
        (fun isStatic => notStatic (congrArg some isStatic)) script script .reject .symbols
        index
      change memoryAccess script .reject (.pop segment index) =
        memoryAccess script .symbols (.pop segment index)
      by_cases isConstant : segment = .constant
      · rw [isConstant]
        rfl
      · rw [memoryAccess_pop script .reject isConstant,
          memoryAccess_pop script .symbols isConstant, same]

theorem block_of_static (script : String) {command : Command}
    (isStatic : command.segment? = some .static) :
    block script .reject command = .error .staticDisabled ∧
      ∃ code, block script .symbols command = .ok code := by
  cases command with
  | add | sub => cases isStatic
  | push segment index | pop segment index =>
      cases isStatic
      exact ⟨rfl, _, rfl⟩

end Codegen

/-- Whether a line states a command on the static segment. -/
def StatesStatic (text : String) : Prop :=
  ∃ command : Command, command.StatedBy text ∧ command.segment? = some .static

section Lines

variable (script : String) {text : String}

theorem compileLine_of_statesStatic (short : Command.ShortIndex text)
    (static : StatesStatic text) :
    compileLine script .reject text = .error (.rejected (.restricted .staticDisabled)) ∧
      ∃ block, compileLine script .symbols text = .ok block := by
  obtain ⟨command, stated, isStatic⟩ := static
  obtain ⟨disabled, block, generated⟩ := Codegen.block_of_static script isStatic
  have parsed := (Command.parse_eq_ok_iff short).mpr stated
  constructor
  · simp only [compileLine, parsed, disabled, Except.mapError]
  · exact ⟨block, by simp only [compileLine, parsed, generated, Except.mapError]⟩

theorem compileLine_of_not_statesStatic (unstatic : ¬ StatesStatic text) :
    compileLine script .reject text = compileLine script .symbols text := by
  rw [compileLine, compileLine]
  split
  · rfl
  · rfl
  next command parsed =>
    have notStatic : command.segment? ≠ some .static := fun isStatic =>
      unstatic ⟨command, Command.statedBy_of_parse parsed, isStatic⟩
    rw [Codegen.block_of_not_static script notStatic]

/-- With static symbols, nothing is switched off. -/
theorem category_ne_disabled {cause : Rejection}
    (rejected : compileLine script .symbols text = .error (.rejected cause)) :
    cause.category ≠ .disabled := by
  rw [compileLine] at rejected
  split at rejected
  next => cases rejected; simp [Rejection.category]
  next => cases rejected
  next command parsed =>
    rcases Codegen.block_cases script .symbols command with
      ⟨_, reason, failed, category⟩ | ⟨_, disabled, _⟩ | ⟨_, _, block, generated⟩
    · simp only [failed, Except.mapError] at rejected
      cases rejected
      simp [Rejection.category, category]
    · cases disabled.1
    · simp [generated, Except.mapError] at rejected

end Lines

namespace SourceLine

variable (script : String) {line : SourceLine}

/-- The complaint about a line with static symbols is the one without them,
unless that is about the static segment. -/
theorem complaint?_symbols (short : Command.ShortIndex line.text) :
    line.complaint? script .symbols =
      (line.complaint? script .reject).filter fun complaint =>
        !complaint.diagnostic.isDisabled := by
  by_cases static : StatesStatic line.text
  · obtain ⟨disabled, block, compiled⟩ := compileLine_of_statesStatic script short static
    simp only [complaint?, disabled, compiled]
    rfl
  · have same := compileLine_of_not_statesStatic script static
    have unchanged : line.complaint? script .reject = line.complaint? script .symbols := by
      rw [complaint?, complaint?, same]
    rw [unchanged]
    cases made : line.complaint? script .symbols with
    | none => rfl
    | some complaint =>
        have enabled : complaint.diagnostic.category ≠ .disabled :=
          category_ne_disabled script (complaint?_eq_some_iff.mp made).2
        rw [Option.filter_some_pos (by simpa [Diagnostic.isDisabled] using enabled)]

theorem complaint?_reject_eq_none_iff (short : Command.ShortIndex line.text) :
    line.complaint? script .reject = none ↔
      line.complaint? script .symbols = none ∧ ¬ StatesStatic line.text := by
  by_cases static : StatesStatic line.text
  · obtain ⟨disabled, _⟩ := compileLine_of_statesStatic script short static
    simp [complaint?, disabled, static]
  · have same := compileLine_of_not_statesStatic script static
    simp [complaint?, same, static]

end SourceLine

section Sources

variable {script : String} {lines : List String} {symbols reject : Compilation}
  (short : ∀ raw ∈ lines, Command.ShortIndex (cleanLine raw))
  (withSymbols : compile script .symbols lines = .ok symbols)
  (withoutStatics : compile script .reject lines = .ok reject)

include short withSymbols withoutStatics

/-- Switching the static segment off adds diagnostics about it and no others. -/
theorem diagnostics_symbols :
    symbols.diagnostics =
      reject.diagnostics.filter fun diagnostic => !diagnostic.isDisabled := by
  rw [Compilation.diagnostics, Compilation.diagnostics, List.filter_map,
    complaints_of_compile withSymbols, complaints_of_compile withoutStatics,
    List.filter_filterMap]
  congr 1
  apply List.filterMap_congr
  intro line member
  exact SourceLine.complaint?_symbols script (shortIndex_of_mem_sourceLines short member)

/-- A source is accepted without static symbols exactly if it is accepted with
them and holds no static command. -/
theorem complaints_reject_eq_nil_iff :
    reject.complaints = [] ↔
      symbols.complaints = [] ∧ ∀ text ∈ cleanedLines lines, ¬ StatesStatic text := by
  rw [complaints_of_compile withSymbols, complaints_of_compile withoutStatics,
    List.filterMap_eq_nil_iff, List.filterMap_eq_nil_iff, ← sourceLines_map_text,
    List.forall_mem_map, ← forall₂_and]
  refine forall₂_congr fun line member => ?_
  exact SourceLine.complaint?_reject_eq_none_iff script
    (shortIndex_of_mem_sourceLines short member)

/-- What is accepted without static symbols becomes the same program with
them. -/
theorem program?_symbols {program : Program}
    (accepted : reject.program? = some program) : symbols.program? = some program := by
  have unrejected := (exists_program?_iff withoutStatics).mp ⟨program, accepted⟩
  obtain ⟨uncomplained, unstatic⟩ :=
    (complaints_reject_eq_nil_iff short withSymbols withoutStatics).mp unrejected
  rw [program?_of_compile withoutStatics, if_pos unrejected] at accepted
  rw [program?_of_compile withSymbols, if_pos uncomplained, ← accepted]
  have sameBlocks : (sourceLines lines).filterMap (SourceLine.block? script .symbols) =
      (sourceLines lines).filterMap (SourceLine.block? script .reject) := by
    apply List.filterMap_congr
    intro line member
    have text : line.text ∈ cleanedLines lines := by
      rw [← sourceLines_map_text]
      exact List.mem_map_of_mem member
    rw [SourceLine.block?, SourceLine.block?,
      compileLine_of_not_statesStatic script (unstatic _ text)]
  rw [sameBlocks]

end Sources

/-- The static policy changes nothing but the fate of static commands.  In a
source in which no index is beyond the digit limit, the diagnostics with static
symbols are those without them, less the ones about the static segment; what is
accepted without static symbols becomes the same program with them; and this is
so exactly for the sources that are accepted with them and state no static
command. -/
theorem policy_changes_only_statics (script : String) (lines : List String)
    (short : ∀ raw ∈ lines, Command.ShortIndex (cleanLine raw)) :
    ∃ symbols reject,
      compile script .symbols lines = .ok symbols ∧
      compile script .reject lines = .ok reject ∧
      symbols.diagnostics =
        reject.diagnostics.filter (fun diagnostic => !diagnostic.isDisabled) ∧
      (∀ program, reject.program? = some program → symbols.program? = some program) ∧
      ((∃ program, reject.program? = some program) ↔
        (∃ program, symbols.program? = some program) ∧
          ∀ text ∈ cleanedLines lines, ¬ StatesStatic text) := by
  obtain ⟨symbols, withSymbols⟩ := (exists_compile_eq_ok_iff script .symbols lines).mpr short
  obtain ⟨reject, withoutStatics⟩ :=
    (exists_compile_eq_ok_iff script .reject lines).mpr short
  refine ⟨symbols, reject, withSymbols, withoutStatics, ?_, ?_, ?_⟩
  · exact diagnostics_symbols short withSymbols withoutStatics
  · exact fun program accepted => program?_symbols short withSymbols withoutStatics accepted
  · rw [exists_program?_iff withSymbols, exists_program?_iff withoutStatics]
    exact complaints_reject_eq_nil_iff short withSymbols withoutStatics

/-- Static commands between lines that fail for other reasons, among them a static
command whose index is too large. -/
theorem policy_changes_only_statics_mixed :
    let lines := ["push static 3 // kept", "pop static 32768", "pop constant 1", "",
      "pop static 0", "push static"]
    (∀ raw ∈ lines, Command.ShortIndex (cleanLine raw)) ∧
      ∃ symbols reject,
        compile "Main" .symbols lines = .ok symbols ∧
        compile "Main" .reject lines = .ok reject ∧
        symbols.diagnostics =
          reject.diagnostics.filter (fun diagnostic => !diagnostic.isDisabled) := by
  intro lines
  have short : ∀ raw ∈ lines, Command.ShortIndex (cleanLine raw) := by
    intro raw member
    have brief : ∀ raw ∈ lines, (cleanLine raw).toList.length ≤ 100 := by
      decide
    exact Command.shortIndex_of_length ((brief raw member).trans (by decide))
  obtain ⟨symbols, reject, withSymbols, withoutStatics, diagnostics, _⟩ :=
    policy_changes_only_statics "Main" lines short
  exact ⟨short, symbols, reject, withSymbols, withoutStatics, diagnostics⟩

end StackCompiler
