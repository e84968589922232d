import StackCompiler.Compilation
import StackCompiler.Proofs.CommandReading
import StackCompiler.Proofs.GeneratedCode

/-!
# The verdict on a line

A cleaned line is rejected for one of three reasons, tried in this order: it
states no command, its command asks for a cell that does not exist or cannot be
written, or its command needs the static segment while that is switched off.
The reasons are stated here from the text of the line alone, and compiling the
line is shown to follow them.
-/

namespace StackCompiler

/-- Whether a segment has no cell with the given index. -/
def Segment.Lacks : Segment → Nat → Prop
  | temp, index => 7 < index
  | pointer, index => 1 < index
  | _, _ => False

namespace Command

/-- Whether a command asks for a cell that does not exist, or pops into a
constant. -/
def Unsupported : Command → Prop
  | add | sub => False
  | push segment index => segment.Lacks index
  | pop segment index => segment = .constant ∨ segment.Lacks index

/-- Whether a command needs a segment that the policy switches off. -/
def Disabled (policy : StaticPolicy) (command : Command) : Prop :=
  policy = .reject ∧ command.segment? = some .static

@[simp]
theorem disabled_push_iff {policy : StaticPolicy} {segment : Segment}
    {index : Nat} :
    (push segment index).Disabled policy ↔ policy = .reject ∧ segment = .static := by
  simp [Disabled, segment?]

@[simp]
theorem disabled_pop_iff {policy : StaticPolicy} {segment : Segment}
    {index : Nat} :
    (pop segment index).Disabled policy ↔ policy = .reject ∧ segment = .static := by
  simp [Disabled, segment?]

end Command

/-- Why a line is rejected under a policy, by category. -/
inductive LineFails (policy : StaticPolicy) (text : String) : Category → Prop
  | malformed :
      (∀ command : Command, ¬ command.StatedBy text) →
        LineFails policy text .malformed
  | unsupported {command : Command} :
      command.StatedBy text → command.Unsupported →
        LineFails policy text .unsupported
  | disabled {command : Command} :
      command.StatedBy text → ¬ command.Unsupported →
        command.Disabled policy → LineFails policy text .disabled

namespace Address

theorem ofSegment_cases (script : String) (policy : StaticPolicy)
    (segment : Segment) (index : Nat) :
    (segment.Lacks index ∧ ∃ cause,
      ofSegment script policy segment index = .error cause ∧
        cause.category = .unsupported) ∨
    (¬ segment.Lacks index ∧ (policy = .reject ∧ segment = .static) ∧
      ofSegment script policy segment index = .error .staticDisabled) ∨
    (¬ segment.Lacks index ∧ ¬ (policy = .reject ∧ segment = .static) ∧
      ∃ address, ofSegment script policy segment index = .ok address) := by
  cases segment with
  | locals | argument | this | that | constant =>
      exact Or.inr (Or.inr ⟨id, by simp, _, rfl⟩)
  | temp =>
      by_cases inside : index < tempSize
      · refine Or.inr (Or.inr ⟨Nat.not_lt.mpr (Nat.le_of_lt_succ inside),
          by simp, _, if_pos inside⟩)
      · refine Or.inl ⟨Nat.not_lt.mp inside, _, if_neg inside, rfl⟩
  | pointer =>
      match index with
      | 0 | 1 => exact Or.inr (Or.inr ⟨by simp [Segment.Lacks], by simp, _, rfl⟩)
      | index + 2 =>
          exact Or.inl ⟨by simp [Segment.Lacks], .pointerIndex (index + 2), rfl, rfl⟩
  | static =>
      cases policy with
      | symbols => exact Or.inr (Or.inr ⟨id, by simp, _, rfl⟩)
      | reject => exact Or.inr (Or.inl ⟨id, ⟨rfl, rfl⟩, rfl⟩)

end Address

namespace Codegen

theorem exists_pop_eq_ok {script : String} {segment : Segment} {index : Nat}
    {address : Address} (notConstant : segment ≠ .constant)
    (form : Address.Form script segment index address) :
    ∃ block, pop segment address = .ok block := by
  cases form with
  | constant => exact absurd rfl notConstant
  | based | temp | pointerThis | pointerThat | static => exact ⟨_, rfl⟩

/-- A command is given code unless it is unsupported or disabled. -/
theorem block_cases (script : String) (policy : StaticPolicy)
    (command : Command) :
    (command.Unsupported ∧ ∃ cause,
      block script policy command = .error cause ∧
        cause.category = .unsupported) ∨
    (¬ command.Unsupported ∧ command.Disabled policy ∧
      block script policy command = .error .staticDisabled) ∨
    (¬ command.Unsupported ∧ ¬ command.Disabled policy ∧
      ∃ code, block script policy command = .ok code) := by
  cases command with
  | add | sub =>
      exact Or.inr (Or.inr ⟨id, by simp [Command.Disabled, Command.segment?], _, rfl⟩)
  | push segment index =>
      have generated : block script policy (.push segment index) =
          (Address.ofSegment script policy segment index).map (push segment) := rfl
      rw [generated]
      rcases Address.ofSegment_cases script policy segment index with
        ⟨lacks, cause, found, category⟩ | ⟨present, off, found⟩ |
          ⟨present, on, address, found⟩
      · exact Or.inl ⟨lacks, cause, by rw [found]; rfl, category⟩
      · exact Or.inr (Or.inl ⟨present, Command.disabled_push_iff.mpr off,
          by rw [found]; rfl⟩)
      · exact Or.inr (Or.inr ⟨present, by simpa using on,
          push segment address, by rw [found]; rfl⟩)
  | pop segment index =>
      have generated : block script policy (.pop segment index) =
          memoryAccess script policy (.pop segment index) := rfl
      rw [generated]
      by_cases isConstant : segment = .constant
      · subst isConstant
        exact Or.inl ⟨Or.inl rfl, _, rfl, rfl⟩
      rw [memoryAccess_pop script policy isConstant]
      rcases Address.ofSegment_cases script policy segment index with
        ⟨lacks, cause, found, category⟩ | ⟨present, off, found⟩ |
          ⟨present, on, address, found⟩
      · exact Or.inl ⟨Or.inr lacks, cause, by rw [found]; rfl, category⟩
      · exact Or.inr (Or.inl ⟨by simp [Command.Unsupported, isConstant, present],
          Command.disabled_pop_iff.mpr off, by rw [found]; rfl⟩)
      · obtain ⟨code, popped⟩ :=
          exists_pop_eq_ok isConstant (Address.form_of_ofSegment found)
        exact Or.inr (Or.inr ⟨by simp [Command.Unsupported, isConstant, present],
          by simpa using on, code, by rw [found]; exact popped⟩)

end Codegen

theorem Command.StatedBy.unique {text : String} (short : ShortIndex text)
    {first second : Command} (firstStated : first.StatedBy text)
    (secondStated : second.StatedBy text) : first = second := by
  have firstParsed := (parse_eq_ok_iff short).mpr firstStated
  have secondParsed := (parse_eq_ok_iff short).mpr secondStated
  rw [firstParsed] at secondParsed
  injection secondParsed

theorem lineFails_iff_of_unstated {policy : StaticPolicy} {text : String}
    (unstated : ∀ command : Command, ¬ command.StatedBy text)
    {category : Category} :
    LineFails policy text category ↔ category = .malformed := by
  constructor
  · intro fails
    cases fails with
    | malformed => rfl
    | unsupported stated | disabled stated => exact absurd stated (unstated _)
  · rintro rfl
    exact .malformed unstated

theorem lineFails_iff_of_stated {policy : StaticPolicy} {text : String}
    (short : Command.ShortIndex text) {command : Command}
    (stated : command.StatedBy text) {category : Category} :
    LineFails policy text category ↔
      category = .unsupported ∧ command.Unsupported ∨
      category = .disabled ∧ ¬ command.Unsupported ∧ command.Disabled policy := by
  constructor
  · intro fails
    cases fails with
    | malformed unstated => exact absurd stated (unstated command)
    | unsupported otherStated unsupported =>
        obtain rfl := otherStated.unique short stated
        exact Or.inl ⟨rfl, unsupported⟩
    | disabled otherStated supported disabled =>
        obtain rfl := otherStated.unique short stated
        exact Or.inr ⟨rfl, supported, disabled⟩
  · rintro (⟨rfl, unsupported⟩ | ⟨rfl, supported, disabled⟩)
    · exact .unsupported stated unsupported
    · exact .disabled stated supported disabled

/-- Within the digit limit, a line is compiled to the block of its command and
fails for no reason, or it is rejected in the one category for which it
fails. -/
theorem compileLine_cases (script : String) (policy : StaticPolicy)
    {text : String} (short : Command.ShortIndex text) :
    (∃ command block, Command.parse text = .ok command ∧
      Codegen.block script policy command = .ok block ∧
      compileLine script policy text = .ok block ∧
      ∀ category, ¬ LineFails policy text category) ∨
    (∃ cause : Rejection,
      compileLine script policy text = .error (.rejected cause) ∧
      ∀ category, LineFails policy text category ↔ category = cause.category) := by
  rcases Command.parse_ok_or_malformed short with
    ⟨command, parsed⟩ | ⟨cause, parsed⟩
  · have stated := (Command.parse_eq_ok_iff short).mp parsed
    have fails := @lineFails_iff_of_stated policy text short command stated
    rcases Codegen.block_cases script policy command with
      ⟨unsupported, cause, failed, kind⟩ | ⟨supported, disabled, failed⟩ |
        ⟨supported, enabled, block, generated⟩
    · refine Or.inr ⟨.restricted cause, ?_, ?_⟩
      · rw [compileLine, parsed]
        simp [failed, Except.mapError]
      · intro category
        simp [fails, unsupported, Rejection.category, kind]
    · refine Or.inr ⟨.restricted .staticDisabled, ?_, ?_⟩
      · rw [compileLine, parsed]
        simp [failed, Except.mapError]
      · intro category
        simp [fails, supported, disabled, Rejection.category,
          Restriction.category]
    · refine Or.inl ⟨command, block, parsed, generated, ?_, ?_⟩
      · rw [compileLine, parsed]
        simp [generated, Except.mapError]
      · intro category
        simp [fails, supported, enabled]
  · have unstated : ∀ command : Command, ¬ command.StatedBy text := by
      intro command stated
      rw [(Command.parse_eq_ok_iff short).mpr stated] at parsed
      cases parsed
    refine Or.inr ⟨.malformed cause, by rw [compileLine, parsed], ?_⟩
    intro category
    exact lineFails_iff_of_unstated unstated

end StackCompiler
