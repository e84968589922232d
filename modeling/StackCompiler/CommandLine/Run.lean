import StackCompiler.CommandLine.Arguments
import StackCompiler.Compilation
import StackCompiler.FileSystem.Basic
import StackCompiler.FileSystem.TextFile

/-!
# Running the command line

A run reads one file, compiles it, and writes the program beside it or where it
is told to.  Nothing is written unless every line was compiled.  The run is a
function of the arguments and the file system: its outcome holds what is
printed, how the run ends, and the file system after it.
-/

namespace StackCompiler

namespace CommandLine

def usage : String :=
  "usage: vmtranslator [-h] [-o OUTPUT] [--static \x7bsymbols,reject\x7d]\n" ++
  "                    [--script-name SCRIPT_NAME] [--buf BUF] [-v]\n" ++
  "                    input\n"

def help : String :=
  usage ++
  "\n" ++
  "Translate a .vm stack-machine file into Hack assembly\n" ++
  "\n" ++
  "positional arguments:\n" ++
  "  input                 Input .vm file\n" ++
  "\n" ++
  "options:\n" ++
  "  -h, --help            show this help message and exit\n" ++
  "  -o OUTPUT, --output OUTPUT\n" ++
  "                        Output .asm file (default: input with .asm suffix)\n" ++
  "  --static \x7bsymbols,reject\x7d\n" ++
  "                        static segment handling: \x27symbols\x27 emits\n" ++
  "                        @<script>.<i>, \x27reject\x27 fails\n" ++
  "  --script-name SCRIPT_NAME\n" ++
  "                        Name used for static symbols (default: input file\n" ++
  "                        stem)\n" ++
  "  --buf BUF             Read buffer size\n" ++
  "  -v, --verbose         Print every line as it is parsed\n"

/-- A failure that ends a run without an exit code of its own. -/
inductive Crash where
  /-- The input has no name from which the output could be named. -/
  | emptyName (path : Path)
  | noPolicy
  | noBuffer
  | unusable (failure : PathFailure)
  | unreadable (fault : TextFile.Fault)
  | oversizeIndex (oversize : OversizeIndex)
  deriving DecidableEq, Repr

def Crash.message : Crash → String
  | .emptyName path => path.emptyNameMessage
  | .noPolicy => "[] is not a valid StaticPolicy"
  | .noBuffer => "argument should be integer or None, not \x27list\x27"
  | .unusable failure => failure.message
  | .unreadable fault => fault.message
  | .oversizeIndex oversize => oversize.message

/-- How a run ends. -/
inductive Ending where
  | exit (code : Nat)
  | crash (cause : Crash)
  deriving DecidableEq, Repr

/-- What a run leaves behind. -/
structure Outcome where
  ending : Ending
  output : String
  errors : String
  files : FileSystem
  deriving DecidableEq, Repr

def notice (message : String) : String :=
  "[vmtranslator] " ++ message ++ "\n"

/-- The message about a line that is looked at. -/
def lineNotice (line : SourceLine) : String :=
  notice ("parsing line " ++ toString line.number ++ ": " ++ line.text)

def complaintNotice (complaint : Complaint) : String :=
  "[translate error] line=" ++ toString complaint.line.number ++ ": " ++
    complaint.cause.message ++ " (" ++ complaint.line.text ++ ")\n"

/-- The messages about all rejected lines, and their number. -/
def complaintNotices (complaints : List Complaint) : String :=
  String.join (complaints.map complaintNotice) ++
    notice (toString complaints.length ++ " error(s), nothing written")

/-- A text that counts as given only if it is not empty. -/
def given (text : Option String) : Option String :=
  text.filter fun text => !text.isEmpty

def Options.outputPath (options : Options) (input : Path) : Except Crash Path :=
  match given options.output with
  | some output => .ok (Path.ofString output)
  | none =>
      match input.withSuffix? ".asm" with
      | some path => .ok path
      | none => .error (.emptyName input)

def Options.script (options : Options) (input : Path) : String :=
  (given options.scriptName).getD input.scriptName

def Options.paths (options : Options) : List Path :=
  let input := Path.ofString options.input
  match options.outputPath input with
  | .ok output => [input, output]
  | .error _ => [input]

/-- Read the input.  The buffer size is asked for once the input is open. -/
def readInput (files : FileSystem) (input : Path) (buffer : Option Int) :
    Except Crash String :=
  match files.readFile input, buffer with
  | .error fault, _ => .error (.unusable ⟨fault, input⟩)
  | .ok _, none => .error .noBuffer
  | .ok content, some buffer => (TextFile.read buffer content).mapError .unreadable

/-- Write a program, after creating the directories above it. -/
def writeProgram (files : FileSystem) (path : Path) (program : Program)
    (printed : String) : Outcome :=
  match files.ensureDirectory path.parent with
  | (files, some failure) => ⟨.crash (.unusable failure), printed, "", files⟩
  | (files, none) =>
      match files.writeFile path (Utf8.encode program.text.toList) with
      | .error fault => ⟨.crash (.unusable ⟨fault, path⟩), printed, "", files⟩
      | .ok files =>
          ⟨.exit 0, printed ++ "OK. asm_written=" ++ files.absolute path ++ "\n",
            "", files⟩

/-- Report on a finished compilation, and write its program if there is one
with any code. -/
def finish (files : FileSystem) (path : Path) (printed : String) :
    Compilation → Outcome
  | .rejected first others =>
      ⟨.exit 2, printed, complaintNotices (first :: others), files⟩
  | .compiled program =>
      if program.isEmpty then
        ⟨.exit 0, printed ++ notice "no commands found, nothing written", "", files⟩
      else
        writeProgram files path program printed

def compileFile (options : Options) (policy : StaticPolicy) (files : FileSystem)
    (input output : Path) : Outcome :=
  let opening := notice ("converting " ++ input.print)
  match readInput files input options.buffer with
  | .error crash => ⟨.crash crash, opening, "", files⟩
  | .ok text =>
      let pass := Pass.over (options.script input) policy (Text.lines text)
      let visited :=
        if options.verbose then String.join (pass.visited.map lineNotice) else ""
      match pass.outcome with
      | .error oversize =>
          ⟨.crash (.oversizeIndex oversize), opening ++ visited, "", files⟩
      | .ok compilation => finish files output (opening ++ visited) compilation

/-- Run with options that were understood.  An input with too long a name is
not merely missing. -/
def runOptions (options : Options) (files : FileSystem) : Outcome :=
  let input := Path.ofString options.input
  match files.find input with
  | .error .nameTooLong =>
      ⟨.crash (.unusable ⟨.nameTooLong, input⟩), "", "", files⟩
  | .error _ =>
      ⟨.exit 3, "", notice ("ERROR: input file not found: " ++ input.print), files⟩
  | .ok _ =>
      match options.outputPath input, options.policy with
      | .error crash, _ => ⟨.crash crash, "", "", files⟩
      | .ok _, none => ⟨.crash .noPolicy, "", "", files⟩
      | .ok output, some policy => compileFile options policy files input output

/-- Run a command line. -/
def run (arguments : List String) (files : FileSystem) : Outcome :=
  match Options.parse arguments with
  | .error .help => ⟨.exit 0, help, "", files⟩
  | .error (.refused refusal) =>
      ⟨.exit 2, "", usage ++ "vmtranslator: error: " ++ refusal.message ++ "\n",
        files⟩
  | .ok options => runOptions options files

end CommandLine

end StackCompiler
