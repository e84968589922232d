import StackCompiler.CommandLine.Run
import StackCompiler.Proofs.DigitLimit
import StackCompiler.Proofs.FileTree
import StackCompiler.Proofs.TextReading

/-!
# The command line agrees with compiling

A run of the command line on a readable input does what compiling the text of
that input says: it reports the diagnostics, or stops at an empty program, or
writes the program to the output.  Only the output path can get in the way of
writing.  Directories above it may be impossible to create, it may be a
directory itself, or its name may be none that a file can have.
-/

namespace StackCompiler

namespace Path

theorem ne_empty_of_mem_parts {text part : String}
    (member : part ∈ (ofString text).parts) : part ≠ "" := by
  intro empty
  simp only [ofString, Text.tokens, List.mem_filter, List.mem_map] at member
  obtain ⟨⟨piece, ⟨_, nonempty⟩, rfl⟩, _⟩ := member
  have none : piece = [] := by simpa using congrArg String.toList empty
  rw [none] at nonempty
  cases nonempty

theorem name_ofString_ne_empty {text : String} (proper : (ofString text).parts ≠ []) :
    (ofString text).name ≠ "" := by
  rw [name, List.getLast?_eq_some_getLast proper]
  exact ne_empty_of_mem_parts (List.getLast_mem proper)

theorem ofString_name {text : String} (isWord : Text.IsWord (· == '/') text.toList)
    (notDot : text ≠ ".") : ofString text = ⟨.working, [text]⟩ := by
  have anchor : anchorOf text.toList = .working := by
    obtain ⟨nonempty, unseparated⟩ := isWord
    cases characters : text.toList with
    | nil => exact absurd characters nonempty
    | cons first rest =>
        rw [characters] at unseparated
        have plain : (first == '/') = false := unseparated first (by simp)
        rw [anchorOf, List.takeWhile_cons, plain]
        rfl
  rw [ofString, anchor, Text.tokens_word isWord]
  simp [notDot]

end Path

namespace CommandLine

theorem Argument.classify_plain {text : String} (undashed : text.toList.head? ≠ some '-') :
    classify text = .ok (.plain text) := by
  rw [classify]
  split
  next dashed =>
    rw [dashed] at undashed
    exact absurd rfl undashed
  next => rfl

/-- The shortest way to name an input and an output. -/
theorem Options.parse_input_output {input output : String}
    (undashed : input.toList.head? ≠ some '-')
    (outputUndashed : output.toList.head? ≠ some '-') :
    Options.parse [input, "-o", output] =
      .ok ⟨input, some output, some .symbols, none, some 65536, false⟩ := by
  have undoubled : ∀ text : String, text.toList.head? ≠ some '-' → text ≠ "--" := by
    rintro _ dashless rfl
    exact dashless (by decide)
  have flag : Argument.classify "-o" = .ok (.option .output true none) := by
    decide +kernel
  have classified : Argument.classifyAll [input, "-o", output] =
      .ok [.plain input, .option .output true none, .plain output] := by
    rw [Argument.classifyAll, if_neg (undoubled input undashed),
      Argument.classify_plain undashed, Argument.classifyAll, if_neg (by decide), flag,
      Argument.classifyAll, if_neg (undoubled output outputUndashed),
      Argument.classify_plain outputUndashed]
    rfl
  have settled : ∀ settings : Settings, settings.settle .output output =
      .ok { settings with output := some output } := by
    intro settings
    rw [Settings.settle, if_neg (undoubled output outputUndashed)]
    rfl
  have acted : ({} : Settings).act
      [.plain input, .option .output true none, .plain output] =
        .ok { input := some input, output := some output } := by
    simp [Settings.act, Cluster.ofOption, Cluster.bare, Flag.takesValue,
      Settings.settleAll, settled, bind, Except.bind]
  rw [Options.parse, classified]
  simp only [acted]

/-- The text that a run compiles, if the input holds the given one. -/
def textTaken (size : Int) (text : String) : String :=
  if size = 0 then "" else text

/-- Whether the arguments are understood and the input is a file that holds a
text. -/
structure Reads (arguments : List String) (files : FileSystem) (options : Options)
    (policy : StaticPolicy) (size : Int) (text : String) : Prop where
  parsed : Options.parse arguments = .ok options
  hasPolicy : options.policy = some policy
  hasSize : options.buffer = some size
  fits : HostWord.fits size = true
  tree : files.IsTree
  holds : ∃ content, files.readFile (Path.ofString options.input) = .ok content ∧
    Utf8.decode content = .ok text.toList

section Runs

variable {arguments : List String} {files : FileSystem} {options : Options}
  {policy : StaticPolicy} {size : Int} {text : String}

theorem Options.exists_outputPath (options : Options)
    (proper : (Path.ofString options.input).parts ≠ []) :
    ∃ output, options.outputPath (Path.ofString options.input) = .ok output := by
  have named := Path.name_ofString_ne_empty proper
  rw [outputPath, Path.withSuffix?]
  split
  · exact ⟨_, rfl⟩
  · rw [if_neg (by simpa using named)]
    exact ⟨_, rfl⟩

theorem Reads.exists_outputPath (reads : Reads arguments files options policy size text) :
    ∃ output, options.outputPath (Path.ofString options.input) = .ok output := by
  obtain ⟨content, readable, _⟩ := reads.holds
  exact options.exists_outputPath (reads.tree.parts_ne_nil readable)

/-- A run on a readable input finishes the compilation of its text. -/
theorem Reads.run_eq_finish (reads : Reads arguments files options policy size text)
    {output : Path} (named : options.outputPath (Path.ofString options.input) = .ok output)
    {compilation : Compilation}
    (compiled : compileText (options.script (Path.ofString options.input)) policy
      (textTaken size text) = .ok compilation) :
    ∃ printed, run arguments files = finish files output printed compilation := by
  obtain ⟨content, readable, decoded⟩ := reads.holds
  obtain ⟨taken, read, sameLines⟩ := TextFile.exists_read_eq_ok reads.fits decoded
  have found := FileSystem.readFile_eq_ok_iff.mp readable
  have input : readInput files (Path.ofString options.input) options.buffer =
      .ok taken := by
    simp only [readInput, readable, reads.hasSize, read]
    rfl
  -- What was read and the text itself have the same lines, and only these are
  -- compiled.
  rw [compileText, compile, textTaken, ← sameLines] at compiled
  rw [run, reads.parsed]
  dsimp only
  simp only [runOptions, found, named, reads.hasPolicy, compileFile, input, compiled]
  exact ⟨_, rfl⟩

end Runs

end CommandLine

/-- Whether a line reports a diagnostic with its place. -/
def Diagnostic.ReportedAs (diagnostic : Diagnostic) (report : String) : Prop :=
  ∃ number text, diagnostic.line = some number ∧ diagnostic.text = some text ∧
    report = "[translate error] line=" ++ toString number ++ ": " ++
      diagnostic.message ++ " (" ++ text ++ ")\n"

namespace CommandLine

/-- What a run does that agrees with a compilation, starting from a file system
and with an output to write to. -/
structure Outcome.Agrees (outcome : Outcome) (files : FileSystem) (output : Path)
    (compilation : Compilation) : Prop where
  /-- The run ends with code 2 exactly if there is a diagnostic. -/
  refused : outcome.ending = .exit 2 ↔ compilation.diagnostics ≠ []
  /-- All diagnostics are reported in order, then their number, and nothing is
  written. -/
  reported : compilation.diagnostics ≠ [] → outcome.files = files ∧
    ∃ reports, List.Forall₂ Diagnostic.ReportedAs compilation.diagnostics reports ∧
      outcome.errors = String.join reports ++ "[vmtranslator] " ++
        toString compilation.diagnostics.length ++ " error(s), nothing written\n"
  /-- Nothing is written for an empty program. -/
  idle : ∀ program, compilation.program? = some program → program.isEmpty = true →
    outcome.ending = .exit 0 ∧ outcome.files = files
  /-- Any other program is written to the output, if the directories above it can
  be created, it is none itself, and a file can have its name. -/
  written : ∀ program prepared, compilation.program? = some program →
    program.isEmpty = false →
    files.ensureDirectory output.parent = (prepared, none) →
    prepared.isDirectory output = false → output.NamesFile →
      outcome.ending = .exit 0 ∧
        ∃ content, outcome.files.readFile output = .ok content ∧
          Utf8.decode content = .ok program.text.toList
  /-- No file can have any other name, and only directories are created. -/
  unwritten : ∀ program prepared, compilation.program? = some program →
    program.isEmpty = false →
    files.ensureDirectory output.parent = (prepared, none) → ¬ output.NamesFile →
      outcome.files = prepared ∧
        ∃ fault, outcome.ending = .crash (.unusable ⟨fault, output⟩)

section Finishing

variable {files : FileSystem} {output : Path}

theorem reportedAs_complaintNotice (complaint : Complaint) :
    complaint.diagnostic.ReportedAs (complaintNotice complaint) :=
  ⟨complaint.line.number, complaint.line.text, rfl, rfl, rfl⟩

theorem complaintNotices_eq (complaints : List Complaint) :
    ∃ reports,
      List.Forall₂ Diagnostic.ReportedAs (complaints.map Complaint.diagnostic) reports ∧
      complaintNotices complaints = String.join reports ++ "[vmtranslator] " ++
        toString complaints.length ++ " error(s), nothing written\n" := by
  refine ⟨complaints.map complaintNotice, ?_, ?_⟩
  · rw [List.forall₂_map_left_iff, List.forall₂_map_right_iff, List.forall₂_same]
    exact fun complaint _ => reportedAs_complaintNotice complaint
  · have closed : " error(s), nothing written" ++ "\n" =
        " error(s), nothing written\n" := rfl
    change String.join _ ++ ("[vmtranslator] " ++
      (toString complaints.length ++ " error(s), nothing written") ++ "\n") = _
    rw [← closed]
    simp only [String.append_assoc]

theorem writeProgram_ending_ne (files : FileSystem) (output : Path) (program : Program)
    (printed : String) :
    (writeProgram files output program printed).ending ≠ .exit 2 := by
  rw [writeProgram]
  split
  · simp
  · split <;> simp

theorem writeProgram_written (tree : files.IsTree) (program : Program)
    (printed : String) {prepared : FileSystem}
    (ensured : files.ensureDirectory output.parent = (prepared, none))
    (notDirectory : prepared.isDirectory output = false) (named : output.NamesFile) :
    (writeProgram files output program printed).ending = .exit 0 ∧
      ∃ content,
        (writeProgram files output program printed).files.readFile output = .ok content ∧
        Utf8.decode content = .ok program.text.toList := by
  have parentFound : prepared.isDirectory output.parent = true := by
    have found := @FileSystem.isDirectory_of_ensureDirectory files output.parent
    rw [ensured] at found
    exact found rfl
  have preparedTree : prepared.IsTree := by
    have extended := files.ensureDirectory_extends output.parent
    rw [ensured] at extended
    exact extended.isTree tree
  obtain ⟨after, written⟩ := preparedTree.exists_writeFile_eq_ok parentFound notDirectory
    named (Utf8.encode program.text.toList)
  rw [writeProgram, ensured]
  simp only [written]
  refine ⟨trivial, _, FileSystem.readFile_of_writeFile written, ?_⟩
  exact Utf8.decode_encode _

theorem writeProgram_unwritten (program : Program) (printed : String)
    {prepared : FileSystem}
    (ensured : files.ensureDirectory output.parent = (prepared, none))
    (unnamed : ¬ output.NamesFile) :
    (writeProgram files output program printed).files = prepared ∧
      ∃ fault, (writeProgram files output program printed).ending =
        .crash (.unusable ⟨fault, output⟩) := by
  rw [writeProgram, ensured]
  dsimp only
  split
  next fault _ => exact ⟨rfl, fault, rfl⟩
  next after written =>
    exact absurd (FileSystem.namesFile_of_writeFile written) unnamed

theorem finish_agrees (tree : files.IsTree) (output : Path) (printed : String)
    (compilation : Compilation) :
    (finish files output printed compilation).Agrees files output compilation := by
  cases compilation with
  | rejected first others =>
      refine ⟨?_, fun _ => ⟨rfl, ?_⟩, ?_, ?_, ?_⟩
      · exact ⟨fun _ => List.cons_ne_nil _ _, fun _ => rfl⟩
      · rw [Compilation.diagnostics, List.length_map]
        exact complaintNotices_eq (first :: others)
      · intro program impossible
        cases impossible
      · intro program prepared impossible
        cases impossible
      · intro program prepared impossible
        cases impossible
  | compiled program =>
      have clean : (Compilation.compiled program).diagnostics = [] := rfl
      refine ⟨?_, fun diagnosed => absurd clean diagnosed, ?_, ?_, ?_⟩
      · refine ⟨fun ending => absurd ending ?_, fun diagnosed => absurd clean diagnosed⟩
        rw [finish]
        split
        · simp
        · exact writeProgram_ending_ne files output program printed
      · rintro _ ⟨⟩ empty
        simp [finish, empty]
      · rintro _ prepared ⟨⟩ filled ensured notDirectory named
        simp only [finish, filled]
        exact writeProgram_written tree program printed ensured notDirectory named
      · rintro _ prepared ⟨⟩ filled ensured unnamed
        simp only [finish, filled]
        exact writeProgram_unwritten program printed ensured unnamed

end Finishing

/-- A run agrees with compiling the text of its input, whatever the arguments
that lead to the script name, the policy and the block size, and whatever line
ends the input has.  A block size of zero stands for an empty text. -/
theorem run_agrees_with_compileText (arguments : List String) (files : FileSystem)
    (options : Options) (policy : StaticPolicy) (size : Int) (text : String)
    (reads : Reads arguments files options policy size text)
    (short : ∀ raw ∈ Text.lines (textTaken size text),
      Command.ShortIndex (cleanLine raw)) :
    let input := Path.ofString options.input
    ∃ compilation output,
      compileText (options.script input) policy (textTaken size text) =
        .ok compilation ∧
      options.outputPath input = .ok output ∧
      (run arguments files).Agrees files output compilation := by
  intro input
  obtain ⟨output, named⟩ := reads.exists_outputPath
  obtain ⟨compilation, compiled⟩ :=
    (exists_compile_eq_ok_iff (options.script input) policy _).mpr short
  obtain ⟨printed, finished⟩ := reads.run_eq_finish named compiled
  refine ⟨compilation, output, compiled, named, ?_⟩
  rw [finished]
  exact finish_agrees reads.tree output printed compilation

/-- A source with a carriage return before a line end of two characters, read in
blocks of two and written to a directory that is not there yet. -/
theorem run_agrees_with_compileText_mixed :
    let text := "push constant 1\r\r\nadd // sum"
    let files : FileSystem := ⟨[(["work"], .directory),
      (["work", "Sum.vm"], .file (Utf8.encode text.toList))], ["work"]⟩
    let arguments := ["--buf", "2", "-o", "out/Sum.asm", "Sum.vm"]
    let options : Options :=
      ⟨"Sum.vm", some "out/Sum.asm", some .symbols, none, some 2, false⟩
    Reads arguments files options .symbols 2 text ∧
      ∃ compilation output,
        compileText "Sum" .symbols text = .ok compilation ∧
        options.outputPath (Path.ofString options.input) = .ok output ∧
        (run arguments files).Agrees files output compilation ∧
        (run arguments files).ending = .exit 0 := by
  intro text files arguments options
  have reads : Reads arguments files options .symbols 2 text := by
    refine ⟨by decide +kernel, rfl, rfl, by decide, ?_, ?_⟩
    · exact FileSystem.isTree_of_entries (by decide +kernel) (by decide +kernel)
    · exact ⟨Utf8.encode text.toList, by decide +kernel, Utf8.decode_encode text.toList⟩
  have whole : textTaken 2 text = text := if_neg (by decide)
  have named : options.script (Path.ofString options.input) = "Sum" := by
    decide +kernel
  have short : ∀ raw ∈ Text.lines text, Command.ShortIndex (cleanLine raw) := by
    intro raw member
    have brief : ∀ raw ∈ Text.lines text, (cleanLine raw).toList.length ≤ 100 := by
      decide +kernel
    exact Command.shortIndex_of_length ((brief raw member).trans (by decide))
  have agrees := run_agrees_with_compileText arguments files options .symbols 2 text
    reads (by rw [whole]; exact short)
  simp only [whole, named] at agrees
  obtain ⟨compilation, output, compiled, located, agrees⟩ := agrees
  refine ⟨reads, compilation, output, compiled, located, agrees, ?_⟩
  have isOutput : options.outputPath (Path.ofString options.input) =
      .ok (Path.ofString "out/Sum.asm") := by
    decide +kernel
  obtain rfl : Path.ofString "out/Sum.asm" = output :=
    Except.ok.inj (isOutput.symm.trans located)
  have created : files.createDirectory (Path.ofString "out/Sum.asm").parent =
      .ok (files.insert ["work", "out"] .directory) := by
    decide +kernel
  have ensured : files.ensureDirectory (Path.ofString "out/Sum.asm").parent =
      (files.insert ["work", "out"] .directory, none) := by
    rw [FileSystem.ensureDirectory]
    simp only [created]
  have filled : ((compileText "Sum" .symbols text).toOption.bind
      Compilation.program?).map Program.isEmpty = some false := by
    decide +kernel
  rw [compiled] at filled
  cases compilation with
  | rejected first others => cases filled
  | compiled program =>
      exact (agrees.written program _ rfl (Option.some.inj filled) ensured
        (by decide +kernel) ⟨by decide +kernel, by decide +kernel⟩).1

/-- An output with a name of 64 characters, which take four bytes each and are
too many for a file.  Nothing is written although the directory is there. -/
theorem overlong_output_not_written :
    let name := String.ofList (List.replicate 64 '😀')
    let text := "add\n"
    let files : FileSystem := ⟨[(["work"], .directory),
      (["work", "Sum.vm"], .file (Utf8.encode text.toList))], ["work"]⟩
    let arguments := ["Sum.vm", "-o", name]
    let options : Options :=
      ⟨"Sum.vm", some name, some .symbols, none, some 65536, false⟩
    let output : Path := ⟨.working, [name]⟩
    Reads arguments files options .symbols 65536 text ∧
      compileText "Sum" .symbols text =
        .ok (.compiled ⟨[Codegen.arithmeticBlock .plus]⟩) ∧
      options.outputPath (Path.ofString options.input) = .ok output ∧
      files.ensureDirectory output.parent = (files, none) ∧
      files.isDirectory output = false ∧
      (run arguments files).files = files ∧
      ∃ fault, (run arguments files).ending = .crash (.unusable ⟨fault, output⟩) := by
  intro name text files arguments options output
  have characters : name.toList = List.replicate 64 '😀' := String.toList_ofList
  have bytes : name.utf8ByteSize = 256 := by
    decide +kernel
  have parsed : Options.parse arguments = .ok options := by
    apply Options.parse_input_output (by decide)
    rw [characters]
    decide
  have reads : Reads arguments files options .symbols 65536 text := by
    refine ⟨parsed, rfl, rfl, by decide, ?_, ?_⟩
    · exact FileSystem.isTree_of_entries (by decide +kernel) (by decide +kernel)
    · exact ⟨Utf8.encode text.toList, by decide +kernel, Utf8.decode_encode text.toList⟩
  have compiled : compileText "Sum" .symbols text =
      .ok (.compiled ⟨[Codegen.arithmeticBlock .plus]⟩) := by
    have lines : Text.lines text = ["add"] := by
      decide +kernel
    rw [compileText, lines]
    rfl
  have located : options.outputPath (Path.ofString options.input) = .ok output := by
    have isWord : Text.IsWord (· == '/') name.toList := by
      rw [characters]
      refine ⟨by simp, fun character member => ?_⟩
      rw [List.eq_of_mem_replicate member]
      decide
    have path : Path.ofString name = output :=
      Path.ofString_name isWord (by decide +kernel)
    have isGiven : given options.output = some name := by
      decide +kernel
    rw [Options.outputPath, isGiven, ← path]
  have long : FileSystem.nameLimit < output.name.utf8ByteSize := by
    change FileSystem.nameLimit < name.utf8ByteSize
    rw [bytes]
    decide
  have ensured := reads.tree.ensureDirectory_start .working
  refine ⟨reads, compiled, located, ensured, FileSystem.isDirectory_of_long long, ?_⟩
  have named : options.script (Path.ofString options.input) = "Sum" := by
    decide +kernel
  have whole : textTaken 65536 text = text := if_neg (by decide)
  obtain ⟨printed, finished⟩ := reads.run_eq_finish located (by rw [named, whole, compiled])
  have agrees := finish_agrees reads.tree output printed
    (.compiled ⟨[Codegen.arithmeticBlock .plus]⟩)
  rw [finished]
  apply agrees.unwritten _ files rfl rfl ensured
  exact fun named => absurd named.2 (Nat.not_le.mpr long)

end CommandLine

end StackCompiler
