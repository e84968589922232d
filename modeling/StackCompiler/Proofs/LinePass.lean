import StackCompiler.Compilation

/-!
# What a pass over the lines gathers

Compiling goes over the source lines once and gathers three things side by
side: the lines looked at, the complaints and the blocks.  Each of the three
can also be told line by line, without the pass.  One step of the pass adds what
the line gives, so a whole pass holds what all lines give, or ends at the first
line with an index beyond the digit limit.
-/

namespace StackCompiler

namespace SourceLine

/-- The index beyond the digit limit in a line, if there is one. -/
def oversize? (line : SourceLine) : Option OversizeIndex :=
  match Command.parse line.text with
  | .error (.oversizeIndex oversize) => some oversize
  | _ => none

/-- The block of a line, if it is compiled. -/
def block? (script : String) (policy : StaticPolicy) (line : SourceLine) :
    Option Block :=
  (compileLine script policy line.text).toOption

/-- The complaint about a line, if it is rejected. -/
def complaint? (script : String) (policy : StaticPolicy) (line : SourceLine) :
    Option Complaint :=
  match compileLine script policy line.text with
  | .error (.rejected cause) => some ⟨line, cause⟩
  | _ => none

/-- Whether an index is oversize depends neither on the script nor on the
policy. -/
theorem oversize?_eq (script : String) (policy : StaticPolicy) (line : SourceLine) :
    line.oversize? =
      match compileLine script policy line.text with
      | .error (.oversizeIndex oversize) => some oversize
      | _ => none := by
  rw [oversize?, compileLine]
  cases Command.parse line.text with
  | error fault => cases fault <;> rfl
  | ok command =>
      dsimp only
      cases Codegen.block script policy command <;> rfl

end SourceLine

/-- The leading lines up to the first one with an index beyond the digit limit,
that one included. -/
def upToOversize : List SourceLine → List SourceLine
  | [] => []
  | line :: rest =>
      if line.oversize?.isSome then [line] else line :: upToOversize rest

section Pass

variable (script : String) (policy : StaticPolicy)

namespace Progress

/-- What is gathered once some more lines were looked at, all of them within the
digit limit. -/
def gather (progress : Progress) (source : List SourceLine) : Progress where
  visited := progress.visited ++ source
  complaints := progress.complaints ++
    source.filterMap (SourceLine.complaint? script policy)
  blocks := progress.blocks ++ source.filterMap (SourceLine.block? script policy)

theorem gather_nil (progress : Progress) :
    progress.gather script policy [] = progress := by
  simp [gather]

theorem gather_singleton (progress : Progress) (line : SourceLine)
    (rest : List SourceLine) :
    (progress.gather script policy [line]).gather script policy rest =
      progress.gather script policy (line :: rest) := by
  simp only [gather, mk.injEq, ← Array.toList_inj, Array.toList_appendList,
    List.append_assoc, ← List.filterMap_append, List.singleton_append, and_self]

/-- One step gathers what its line gives, or ends at its index. -/
theorem visit_eq (progress : Progress) (line : SourceLine) :
    progress.visit script policy line =
      match line.oversize? with
      | some oversize => .error ⟨oversize, progress.visited.push line⟩
      | none => .ok (progress.gather script policy [line]) := by
  rw [visit, gather, SourceLine.oversize?_eq script policy]
  cases outcome : compileLine script policy line.text with
  | ok block =>
      simp [SourceLine.complaint?, SourceLine.block?, outcome, Except.toOption]
  | error fault =>
      cases fault with
      | rejected cause =>
          simp [SourceLine.complaint?, SourceLine.block?, outcome, Except.toOption]
      | oversizeIndex oversize => rfl

/-- A run of steps gathers what the lines give, or ends at the first oversize
index. -/
theorem foldlM_visit (source : List SourceLine) (progress : Progress) :
    source.foldlM (visit script policy) progress =
      match source.findSome? SourceLine.oversize? with
      | some oversize => .error ⟨oversize, progress.visited ++ upToOversize source⟩
      | none => .ok (progress.gather script policy source) := by
  -- Each step leaves other progress behind, so the progress is arbitrary.
  induction source generalizing progress with
  | nil =>
      rw [gather_nil]
      rfl
  | cons line rest ih =>
      rw [List.foldlM_cons, visit_eq, List.findSome?_cons, upToOversize]
      cases line.oversize? with
      | some oversize =>
          rw [Array.push_eq_append]
          rfl
      | none =>
          have visits : (progress.gather script policy [line]).visited ++ upToOversize rest =
              progress.visited ++ line :: upToOversize rest := by
            simp [gather]
          change rest.foldlM (visit script policy) (progress.gather script policy [line]) = _
          rw [ih, visits, gather_singleton]
          rfl

end Progress

theorem upToOversize_eq_self {source : List SourceLine}
    (sized : ∀ line ∈ source, line.oversize? = none) :
    upToOversize source = source := by
  induction source with
  | nil => rfl
  | cons line rest ih =>
      have sizedLine : line.oversize? = none := sized line (by simp)
      have sizedRest : ∀ other ∈ rest, other.oversize? = none :=
        fun other member => sized other (by simp [member])
      rw [upToOversize, sizedLine, ih sizedRest]
      rfl

variable (lines : List String)

/-- The lines looked at are those up to the first oversize index. -/
theorem visitedLines_eq :
    visitedLines script policy lines = upToOversize (sourceLines lines) := by
  rw [visitedLines, Pass.over, Progress.foldlM_visit]
  cases stopped : (sourceLines lines).findSome? SourceLine.oversize? with
  | some oversize => simp
  | none =>
      rw [upToOversize_eq_self (List.findSome?_eq_none_iff.mp stopped)]
      simp [Progress.gather]

/-- What came of the lines, told line by line. -/
theorem compile_eq :
    compile script policy lines =
      match (sourceLines lines).findSome? SourceLine.oversize? with
      | some oversize => .error oversize
      | none =>
          .ok (.conclude
            ((sourceLines lines).filterMap (SourceLine.complaint? script policy))
            ((sourceLines lines).filterMap (SourceLine.block? script policy))) := by
  rw [compile, Pass.over, Progress.foldlM_visit]
  cases (sourceLines lines).findSome? SourceLine.oversize? with
  | some oversize => rfl
  | none => simp [Progress.compilation, Progress.gather]

variable {script policy lines}

/-- Compiling ends well exactly if no index is oversize, and then the outcome
holds what the lines give. -/
theorem compile_eq_ok_iff {compilation : Compilation} :
    compile script policy lines = .ok compilation ↔
      (∀ line ∈ sourceLines lines, line.oversize? = none) ∧
        compilation = .conclude
          ((sourceLines lines).filterMap (SourceLine.complaint? script policy))
          ((sourceLines lines).filterMap (SourceLine.block? script policy)) := by
  rw [compile_eq, ← List.findSome?_eq_none_iff]
  cases (sourceLines lines).findSome? SourceLine.oversize? with
  | some oversize => simp
  | none => simp [eq_comm]

/-- The complaints of a compilation are those of the source lines. -/
theorem complaints_of_compile {compilation : Compilation}
    (compiled : compile script policy lines = .ok compilation) :
    compilation.complaints =
      (sourceLines lines).filterMap (SourceLine.complaint? script policy) := by
  obtain ⟨_, rfl⟩ := compile_eq_ok_iff.mp compiled
  exact Compilation.complaints_conclude _ _

/-- Without a complaint, the program of a compilation is made of the blocks of
the source lines. -/
theorem program?_of_compile {compilation : Compilation}
    (compiled : compile script policy lines = .ok compilation) :
    compilation.program? =
      if compilation.complaints = [] then
        some ⟨(sourceLines lines).filterMap (SourceLine.block? script policy)⟩
      else none := by
  obtain ⟨_, rfl⟩ := compile_eq_ok_iff.mp compiled
  rw [Compilation.complaints_conclude, Compilation.program?_conclude]

end Pass

end StackCompiler
