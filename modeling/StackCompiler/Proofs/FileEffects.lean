import StackCompiler.CommandLine.Run
import StackCompiler.Proofs.FileTree

/-!
# What a run does to the files

A run of the command line writes all of its program or nothing.  It touches the
file system only at its very end, once there is a program to write, and until
then every way to stop leaves all files and directories as they were.  Writing
first creates the directories above the output.  If that fails, or the output
cannot be opened, only new directories are left behind.  Otherwise the output is
the one file that changed.
-/

namespace StackCompiler

namespace Path

/-- Whether a path is the beginning of another one, name by name.  Double dots
count as a name. -/
def Opens (ancestor path : Path) : Prop :=
  ancestor.anchor = path.anchor ∧ ancestor.parts <+: path.parts

theorem opens_self (path : Path) : path.Opens path :=
  ⟨rfl, List.prefix_refl _⟩

theorem Opens.of_parent {ancestor path : Path} (opening : ancestor.Opens path.parent) :
    ancestor.Opens path :=
  ⟨opening.1, opening.2.trans (List.dropLast_prefix _)⟩

end Path

namespace FileSystem

/-- Whether a path can be followed to a place, at which there need not be
anything. -/
def Leads (files : FileSystem) (path : Path) (place : Place) : Prop :=
  files.follow (files.start path) path.parts = .ok place

instance (files : FileSystem) (path : Path) (place : Place) :
    Decidable (files.Leads path place) :=
  inferInstanceAs (Decidable (_ = _))

variable {files middle after : FileSystem} {path : Path} {place : Place}

theorem Leads.unique {other : Place} (led : files.Leads path place)
    (again : files.Leads path other) : place = other :=
  Except.ok.inj (led.symm.trans again)

theorem KeepsDirectories.leads (keeps : files.KeepsDirectories after)
    (led : files.Leads path place) : after.Leads path place := by
  rw [Leads, keeps.start_eq path]
  exact keeps.follow led

/-- The target of a path is where the path leads, also after something was put
there. -/
theorem leads_insert {entry : Entry} (target : files.target? path = .ok (some place))
    (keeps : files.KeepsDirectories (files.insert place entry)) :
    (files.insert place entry).Leads path place := by
  obtain ⟨_, parent, name, followed, isDirectory, isLast, proper, short, rfl⟩ :=
    target?_eq_some_iff.mp target
  have led := follow_of_last followed isDirectory isLast short
  rw [if_neg proper] at led
  exact keeps.leads led

theorem target_ne_top (target : files.target? path = .ok (some place)) : place ≠ [] := by
  obtain ⟨_, parent, name, _, _, _, _, _, rfl⟩ := target?_eq_some_iff.mp target
  simp

/-- Whether a place got a directory that it lacked, and a path that begins a
given one leads to it. -/
structure NewAbove (files after : FileSystem) (path : Path) (place : Place) : Prop where
  absent : files.entry? place = none
  present : after.entry? place = some .directory
  opened : ∃ ancestor : Path, ancestor.Opens path ∧ after.Leads ancestor place

/-- Whether nothing changed but that directories were added along a path. -/
structure AddsDirectories (files after : FileSystem) (path : Path) : Prop where
  working : after.working = files.working
  entries : ∀ place, after.entry? place = files.entry? place ∨
    files.NewAbove after path place

namespace AddsDirectories

theorem refl (files : FileSystem) (path : Path) : files.AddsDirectories files path :=
  ⟨rfl, fun _ => .inl rfl⟩

theorem keepsDirectories (adds : files.AddsDirectories after path) :
    files.KeepsDirectories after := by
  refine ⟨adds.working, fun place isDirectory => ?_⟩
  rcases adds.entries place with same | new
  · rw [same, isDirectory]
  · exact new.present

theorem of_parent (adds : files.AddsDirectories after path.parent) :
    files.AddsDirectories after path := by
  refine ⟨adds.working, fun place => (adds.entries place).imp_right fun new => ?_⟩
  obtain ⟨ancestor, opening, led⟩ := new.opened
  exact ⟨new.absent, new.present, ancestor, opening.of_parent, led⟩

theorem trans (first : files.AddsDirectories middle path)
    (second : middle.AddsDirectories after path) : files.AddsDirectories after path := by
  refine ⟨second.working.trans first.working, fun place => ?_⟩
  rcases first.entries place with same | new
  · rcases second.entries place with unchanged | new
    · exact .inl (unchanged.trans same)
    · exact .inr ⟨same.symm.trans new.absent, new.present, new.opened⟩
  · obtain ⟨ancestor, opening, led⟩ := new.opened
    have keeps := second.keepsDirectories
    exact .inr ⟨new.absent, keeps.directories place new.present, ancestor, opening,
      keeps.leads led⟩

/-- Regular files are neither changed nor created nor removed. -/
theorem file_iff (adds : files.AddsDirectories after path) (place : Place)
    (content : List UInt8) :
    after.entry? place = some (.file content) ↔
      files.entry? place = some (.file content) := by
  rcases adds.entries place with same | new
  · rw [same]
  · simp [new.absent, new.present]

end AddsDirectories

theorem addsDirectories_of_createDirectory
    (created : files.createDirectory path = .ok after) :
    files.AddsDirectories after path := by
  obtain ⟨place, target, free, rfl⟩ := createDirectory_eq_ok_iff.mp created
  have proper := target_ne_top target
  have keeps : files.KeepsDirectories (files.insert place .directory) :=
    keepsDirectories_insert proper fun _ => rfl
  refine ⟨rfl, fun other => ?_⟩
  by_cases same : other = place
  · subst same
    refine .inr ⟨Option.not_isSome_iff_eq_none.mp free, ?_, path, path.opens_self,
      leads_insert target keeps⟩
    rw [entry?_insert proper, if_pos rfl]
  · left
    rw [entry?_insert proper, if_neg same]

/-- Ensuring a directory adds directories along its path, whether or not it
succeeds. -/
theorem ensureDirectory_adds (files : FileSystem) (path : Path) :
    files.AddsDirectories (files.ensureDirectory path).1 path := by
  fun_induction ensureDirectory files path with
  | case1 path after created => exact addsDirectories_of_createDirectory created
  | case2 path => exact .refl files path
  | case3 path _ _ after failure ensured ih =>
      rw [ensured] at ih
      exact ih.of_parent
  | case4 path _ _ middle ensured after created ih =>
      rw [ensured] at ih
      exact ih.of_parent.trans (addsDirectories_of_createDirectory created)
  | case5 path _ _ after ensured _ ih =>
      rw [ensured] at ih
      exact ih.of_parent
  | case6 path _ _ after ensured fault _ _ ih =>
      rw [ensured] at ih
      rw [acceptDirectory_fst]
      exact ih.of_parent
  | case7 path fault =>
      rw [acceptDirectory_fst]
      exact .refl files path

/-- Whether a file was written at a place, and nothing else changed but that the
directories above it were added. -/
structure WritesOnly (files after : FileSystem) (path : Path) (content : List UInt8)
    (place : Place) : Prop where
  keeps : files.KeepsDirectories after
  leads : after.Leads path place
  written : after.readFile path = .ok content
  others : ∀ other, other ≠ place → after.entry? other = files.entry? other ∨
    files.NewAbove after path.parent other

/-- Whatever could be found before is found again under every path that does not
lead to the file written. -/
theorem WritesOnly.find_eq {content : List UInt8}
    (writes : files.WritesOnly after path content place) {other : Path} {entry : Entry}
    (found : files.find other = .ok entry) (elsewhere : ¬ files.Leads other place) :
    after.find other = .ok entry := by
  obtain ⟨accepted, found, led, isEntry⟩ := find_eq_ok_iff.mp found
  have distinct : found ≠ place := by
    rintro rfl
    exact elsewhere led
  apply find_eq_ok_iff.mpr
  refine ⟨accepted, found, writes.keeps.leads led, ?_⟩
  rcases writes.others found distinct with same | new
  · rw [same, isEntry]
  · rw [new.absent] at isEntry
    cases isEntry

/-- Writing a file after adding the directories above it changes that file
only. -/
theorem AddsDirectories.writesOnly {content : List UInt8}
    (adds : files.AddsDirectories middle path.parent)
    (isWritten : middle.writeFile path content = .ok after) :
    ∃ place, files.WritesOnly after path content place := by
  have readBack := readFile_of_writeFile isWritten
  obtain ⟨place, target, free, rfl⟩ := writeFile_eq_ok_iff.mp isWritten
  have proper := target_ne_top target
  have keeps : middle.KeepsDirectories (middle.insert place (.file content)) :=
    keepsDirectories_insert proper fun isDirectory => absurd isDirectory free
  refine ⟨place, ⟨keeps.working.trans adds.working, ?_⟩, leads_insert target keeps,
    readBack, ?_⟩
  · intro other isDirectory
    exact keeps.directories other (adds.keepsDirectories.directories other isDirectory)
  · intro other distinct
    have same : FileSystem.entry? (middle.insert place (.file content)) other =
        middle.entry? other := by
      rw [entry?_insert proper, if_neg distinct]
    rcases adds.entries other with unchanged | new
    · exact .inl (same.trans unchanged)
    · obtain ⟨ancestor, opening, led⟩ := new.opened
      exact .inr ⟨new.absent, same.trans new.present, ancestor, opening, keeps.leads led⟩

end FileSystem

namespace CommandLine

/-- The program of a compilation that is worth writing: one with any code. -/
def deliverable? : Compilation → Option Program
  | .rejected _ _ => none
  | .compiled program => if program.isEmpty then none else some program

/-- The output and the program of a run that comes to writing.  The arguments
have to be understood, the input found and read, and all of its lines compiled,
to more than an empty program. -/
def delivery? (arguments : List String) (files : FileSystem) :
    Option (Path × Program) := do
  let options ← (Options.parse arguments).toOption
  let input := Path.ofString options.input
  let _ ← (files.find input).toOption
  let output ← (options.outputPath input).toOption
  let policy ← options.policy
  let text ← (readInput files input options.buffer).toOption
  let compilation ←
    (compile (options.script input) policy (Text.lines text)).toOption
  let program ← deliverable? compilation
  return (output, program)

/-- Whether an outcome leaves the files alone, or is that of writing what there
is to write. -/
def Outcome.Delivers (outcome : Outcome) (files : FileSystem) :
    Option (Path × Program) → Prop
  | none => outcome.files = files
  | some (output, program) =>
      ∃ printed, outcome = writeProgram files output program printed

theorem finish_delivers (files : FileSystem) (output : Path) (printed : String)
    (compilation : Compilation) :
    (finish files output printed compilation).Delivers files
      ((deliverable? compilation).bind fun program => some (output, program)) := by
  cases compilation with
  | rejected first others => rfl
  | compiled program =>
      rw [finish, deliverable?]
      split
      · rfl
      · exact ⟨printed, rfl⟩

/-- Whatever stops a run before it comes to writing leaves the files alone. -/
theorem run_delivers (arguments : List String) (files : FileSystem) :
    (run arguments files).Delivers files (delivery? arguments files) := by
  rw [run, delivery?]
  cases Options.parse arguments with
  | error stop => cases stop <;> rfl
  | ok options =>
      simp only [runOptions, Except.toOption, Option.bind_eq_bind, Option.bind_some]
      cases files.find (Path.ofString options.input) with
      | error fault => cases fault <;> rfl
      | ok entry =>
          cases options.outputPath (Path.ofString options.input) with
          | error crash => rfl
          | ok output =>
              cases options.policy with
              | none => rfl
              | some policy =>
                  simp only [compileFile, Option.bind_some]
                  cases readInput files (Path.ofString options.input) options.buffer with
                  | error crash => rfl
                  | ok text =>
                      simp only [Option.bind_some, compile]
                      cases (Pass.over (options.script (Path.ofString options.input)) policy
                          (Text.lines text)).outcome with
                      | error oversize => rfl
                      | ok compilation => exact finish_delivers files output _ compilation

/-- Writing ends in a crash that leaves at most new directories behind, or with
the output as the only file that changed. -/
theorem writeProgram_cases (files : FileSystem) (output : Path) (program : Program)
    (printed : String) :
    let outcome := writeProgram files output program printed
    (∃ failure, outcome.ending = .crash (.unusable failure) ∧
      files.AddsDirectories outcome.files output.parent) ∨
    (outcome.ending = .exit 0 ∧
      outcome.output = printed ++ "OK. asm_written=" ++ outcome.files.absolute output ++
        "\n" ∧
      ∃ place, files.WritesOnly outcome.files output
        (Utf8.encode program.text.toList) place) := by
  have adds := files.ensureDirectory_adds output.parent
  rw [writeProgram]
  split
  next prepared failure ensured =>
    rw [ensured] at adds
    exact .inl ⟨failure, rfl, adds⟩
  next prepared ensured =>
    rw [ensured] at adds
    split
    next fault _ => exact .inl ⟨⟨fault, output⟩, rfl, adds⟩
    next after written => exact .inr ⟨rfl, rfl, adds.writesOnly written⟩

/-- What a run may do to the file system it starts from. -/
structure Outcome.AllOrNothing (outcome : Outcome) (arguments : List String)
    (files : FileSystem) : Prop where
  /-- A run that does not come to writing changes nothing. -/
  idle : delivery? arguments files = none → outcome.files = files
  /-- Neither does one that ends with a code other than zero. -/
  refused : ∀ code, outcome.ending = .exit code → code ≠ 0 → outcome.files = files
  /-- Nor does one that crashes for any cause but a path that cannot be used. -/
  failed : ∀ cause, outcome.ending = .crash cause →
    (∀ failure, cause ≠ .unusable failure) → outcome.files = files
  /-- A crash of any cause changes, creates and removes no regular file. -/
  crashed : ∀ cause, outcome.ending = .crash cause → ∀ place content,
    outcome.files.entry? place = some (.file content) ↔
      files.entry? place = some (.file content)
  /-- A crash while writing leaves at most new directories above the output. -/
  interrupted : ∀ cause output program, outcome.ending = .crash cause →
    delivery? arguments files = some (output, program) →
      files.AddsDirectories outcome.files output.parent
  /-- Otherwise the whole program is written, and the run says so.  All else stays
  as it was, apart from new directories above the output. -/
  completed : ∀ code output program, outcome.ending = .exit code →
    delivery? arguments files = some (output, program) →
      code = 0 ∧
      (∃ printed, outcome.output =
        printed ++ "OK. asm_written=" ++ outcome.files.absolute output ++ "\n") ∧
      ∃ place, files.WritesOnly outcome.files output
          (Utf8.encode program.text.toList) place ∧
        ∀ other entry, files.find other = .ok entry → ¬ files.Leads other place →
          outcome.files.find other = .ok entry

theorem Outcome.allOrNothing_of_unchanged {outcome : Outcome} {arguments : List String}
    {files : FileSystem} (undelivered : delivery? arguments files = none)
    (unchanged : outcome.files = files) : outcome.AllOrNothing arguments files where
  idle _ := unchanged
  refused _ _ _ := unchanged
  failed _ _ _ := unchanged
  crashed _ _ _ _ := by rw [unchanged]
  interrupted _ _ _ _ delivered := by
    rw [undelivered] at delivered
    cases delivered
  completed _ _ _ _ delivered := by
    rw [undelivered] at delivered
    cases delivered

theorem writeProgram_allOrNothing {arguments : List String} {files : FileSystem}
    {output : Path} {program : Program}
    (delivered : delivery? arguments files = some (output, program)) (printed : String) :
    (writeProgram files output program printed).AllOrNothing arguments files := by
  have unique : ∀ {other : Path} {code : Program},
      delivery? arguments files = some (other, code) → other = output ∧ code = program := by
    intro other code again
    rw [delivered] at again
    cases again
    exact ⟨rfl, rfl⟩
  have idle : delivery? arguments files ≠ none := by
    rw [delivered]
    exact Option.some_ne_none _
  obtain ⟨failure, ending, adds⟩ | ⟨ending, announced, place, writes⟩ :=
    writeProgram_cases files output program printed
  -- A crash excludes what is said of exits, and an exit what is said of crashes.
  · refine ⟨fun undelivered => absurd undelivered idle, by simp [ending], ?_, ?_, ?_,
      by simp [ending]⟩
    · intro cause crashes usable
      rw [ending] at crashes
      cases crashes
      exact absurd rfl (usable failure)
    · exact fun _ _ place content => adds.file_iff place content
    · intro cause other code _ again
      obtain ⟨rfl, rfl⟩ := unique again
      exact adds
  · refine ⟨fun undelivered => absurd undelivered idle, ?_, by simp [ending],
      by simp [ending], by simp [ending], ?_⟩
    · intro code exits failed
      rw [ending] at exits
      cases exits
      exact absurd rfl failed
    · intro code other compiled exits again
      obtain ⟨rfl, rfl⟩ := unique again
      rw [ending] at exits
      cases exits
      exact ⟨rfl, ⟨printed, announced⟩, place, writes, fun _ _ => writes.find_eq⟩

/-- A run writes all of its program or nothing, whatever the arguments are and
whatever the file system holds. -/
theorem run_all_or_nothing (arguments : List String) (files : FileSystem) :
    (run arguments files).AllOrNothing arguments files := by
  have delivers := run_delivers arguments files
  cases delivered : delivery? arguments files with
  | none =>
      rw [delivered] at delivers
      exact Outcome.allOrNothing_of_unchanged delivered delivers
  | some delivery =>
      rw [delivered] at delivers
      obtain ⟨printed, written⟩ := delivers
      rw [written]
      exact writeProgram_allOrNothing delivered printed

/-- Two directories are missing above the output and are created.  If the output
is a directory itself, the one that was created on the way to it stays. -/
theorem run_all_or_nothing_nested :
    let content := Utf8.encode "add // sum\n".toList
    let files : FileSystem := ⟨[(["work"], .directory),
      (["work", "Sum.vm"], .file content)], ["work"]⟩
    let input : Path := ⟨.working, ["Sum.vm"]⟩
    let output : Path := ⟨.working, ["out", "deep", "Sum.asm"]⟩
    let program : Program := ⟨[Codegen.arithmeticBlock .plus]⟩
    let written := run ["Sum.vm", "-o", "out/deep/Sum.asm"] files
    let blocked := run ["Sum.vm", "-o", "new/../.."] files
    (∃ place, files.WritesOnly written.files output
      (Utf8.encode program.text.toList) place) ∧
    written.files.find input = .ok (.file content) ∧
    files.AddsDirectories blocked.files ⟨.working, ["new", ".."]⟩ ∧
    blocked.files = files.insert ["work", "new"] .directory := by
  intro content files input output program written blocked
  obtain ⟨_, _, place, writes, kept⟩ :=
    (run_all_or_nothing ["Sum.vm", "-o", "out/deep/Sum.asm"] files).completed 0 output
      program (by decide +kernel) (by decide +kernel)
  have found : files.find input = .ok (.file content) := by
    decide +kernel
  have isPlace : place = ["work", "out", "deep", "Sum.asm"] :=
    writes.leads.unique (by decide +kernel)
  have elsewhere : ¬ files.Leads input place := by
    rw [isPlace]
    decide +kernel
  refine ⟨⟨place, writes⟩, kept input _ found elsewhere, ?_, by decide +kernel⟩
  exact (run_all_or_nothing ["Sum.vm", "-o", "new/../.."] files).interrupted
    (.unusable ⟨.isDirectory, ⟨.working, ["new", "..", ".."]⟩⟩)
    ⟨.working, ["new", "..", ".."]⟩ program (by decide +kernel) (by decide +kernel)

end CommandLine

end StackCompiler
