import StackCompiler.Address
import StackCompiler.Text.Numeral

/-!
# Command line arguments

The command line takes one input and a few options.  Long options may be cut
short as long as they stay unique, values follow an option or are attached to
it, and letters of short options may be joined.  Arguments are first told apart
by their form; only then are they acted on, from left to right.

Releases of the argument reader differ in how they treat attached values, and
the rules here are those of its earlier 3.9 to 3.11 releases.
* An attached value that is just a double dash counts as a separator and is
  dropped.  The option is left without a value, also if one was given before.
* An equals sign behind joined letters is part of the value, so `-vo=name` names
  the output `=name`.
* A joined letter that is no option makes the letters from there on a value that
  the option before it cannot take, and the command line is refused.
-/

namespace StackCompiler

namespace CommandLine

/-- The options of the command line. -/
inductive Flag where
  | help
  | output
  | static
  | scriptName
  | buffer
  | verbose
  deriving DecidableEq, Repr

/-- All spellings of options, in the order in which they are listed. -/
def spellings : List (String × Flag) :=
  [("-h", .help), ("--help", .help), ("-o", .output), ("--output", .output),
    ("--static", .static), ("--script-name", .scriptName), ("--buf", .buffer),
    ("-v", .verbose), ("--verbose", .verbose)]

namespace Flag

def takesValue : Flag → Bool
  | help | verbose => false
  | output | static | scriptName | buffer => true

/-- The name of an option in messages: its spellings with slashes between
them. -/
def label (flag : Flag) : String :=
  "/".intercalate
    ((spellings.filter fun (_, other) => other == flag).map Prod.fst)

def ofLetter? (letter : Char) : Option Flag :=
  spellings.lookup (String.ofList ['-', letter])

end Flag

/-- Why a command line is refused. -/
inductive Refusal where
  | ambiguous (argument : String) (candidates : List String)
  | expectedValue (flag : Flag)
  | ignoredValue (flag : Flag) (value : String)
  /-- The policy is not one of the known ones. -/
  | invalidPolicy (value : String)
  | invalidBuffer (value : String)
  | missingInput
  | unrecognized (arguments : List String)
  deriving DecidableEq, Repr

def aboutFlag (flag : Flag) (message : String) : String :=
  "argument " ++ flag.label ++ ": " ++ message

def Refusal.message : Refusal → String
  | .ambiguous argument candidates =>
      "ambiguous option: " ++ argument ++ " could match " ++
        ", ".intercalate candidates
  | .expectedValue flag => aboutFlag flag "expected one argument"
  | .ignoredValue flag value =>
      aboutFlag flag ("ignored explicit argument " ++ Text.quote value)
  | .invalidPolicy value =>
      aboutFlag .static
        ("invalid choice: " ++ Text.quote value ++ " (choose from " ++
          ", ".intercalate
            (StaticPolicy.all.map fun policy => Text.quote policy.name) ++ ")")
  | .invalidBuffer value =>
      aboutFlag .buffer ("invalid int value: " ++ Text.quote value)
  | .missingInput => "the following arguments are required: input"
  | .unrecognized arguments =>
      "unrecognized arguments: " ++ " ".intercalate arguments

/-- An argument, told apart by its form. -/
inductive Argument where
  | plain (text : String)
  | separator
  /-- An option, whether it is spelled with a single dash, and the value
  attached to it. -/
  | option (flag : Flag) (short : Bool) (value : Option String)
  | unknown (text : String)
  deriving DecidableEq, Repr

namespace Argument

/-- Drop one line feed from the end of a text. -/
def dropLineFeed (text : List Char) : List Char :=
  if text.getLast? = some '\n' then text.dropLast else text

/-- Whether the text after a dash is a number, so that the whole is a negative
number: digits, possibly with a point before the last of them. -/
def isNumber (text : List Char) : Bool :=
  match Text.splitFirst '.' (dropLineFeed text) with
  | (whole, none) => !whole.isEmpty && whole.all Text.isDecimal
  | (whole, some fraction) =>
      whole.all Text.isDecimal && !fraction.isEmpty && fraction.all Text.isDecimal

/-- Tell apart an argument that starts with a dash and fits no option: negative
numbers and anything with a space in it are plain. -/
def classifyRest (text : String) : Argument :=
  let characters := text.toList
  if isNumber characters.tail || characters.contains ' ' then plain text
  else unknown text

/-- Tell apart an argument with two dashes, given its name and the value
attached to it. -/
def classifyLong (text : String) (name : List Char) (value : Option String) :
    Except Refusal Argument :=
  match spellings.filter fun (spelling, _) => name.isPrefixOf spelling.toList with
  | [] => .ok (classifyRest text)
  | [(_, flag)] => .ok (option flag false value)
  | candidates => .error (.ambiguous text (candidates.map Prod.fst))

/-- Tell apart an argument with one dash, given its letter and what follows
it. -/
def classifyShort (text : String) (letter : Char) (rest : List Char) : Argument :=
  match Flag.ofLetter? letter with
  | some flag => option flag true (some (String.ofList rest))
  | none => classifyRest text

/-- Tell an argument apart.  Exact spellings come first, with or without an
attached value. -/
def classify (text : String) : Except Refusal Argument :=
  match text.toList with
  | '-' :: second :: rest =>
      let (name, value) := Text.splitFirst '=' ('-' :: second :: rest)
      match spellings.lookup text with
      | some flag => .ok (option flag (second != '-') none)
      | none =>
          match spellings.lookup (String.ofList name), value with
          | some flag, some value =>
              .ok (option flag (second != '-') (some (String.ofList value)))
          | _, _ =>
              if second = '-' then
                classifyLong text name (value.map String.ofList)
              else
                .ok (classifyShort text second rest)
  | _ => .ok (plain text)

/-- Tell all arguments apart.  After a double dash all are plain. -/
def classifyAll : List String → Except Refusal (List Argument)
  | [] => .ok []
  | text :: rest =>
      if text = "--" then
        .ok (separator :: rest.map plain)
      else do
        let argument ← classify text
        let arguments ← classifyAll rest
        return argument :: arguments

end Argument

/-- The options of one argument: those that are settled, and one that still
waits for its value. -/
structure Cluster where
  settled : List (Flag × Option String)
  waiting : Option Flag
  deriving DecidableEq, Repr

namespace Cluster

def bare (flag : Flag) : Cluster :=
  if flag.takesValue then ⟨[], some flag⟩ else ⟨[(flag, none)], none⟩

/-- Read the letters joined to a short option: more options, up to one that
takes the rest as its value. -/
def ofLetters (flag : Flag) : List Char → Except Refusal Cluster
  | [] => .ok (bare flag)
  | letter :: rest =>
      if flag.takesValue then
        .ok ⟨[(flag, some (String.ofList (letter :: rest)))], none⟩
      else
        match Flag.ofLetter? letter with
        | none => .error (.ignoredValue flag (String.ofList (letter :: rest)))
        | some next =>
            (ofLetters next rest).map fun cluster =>
              ⟨(flag, none) :: cluster.settled, cluster.waiting⟩

def ofOption (flag : Flag) (short : Bool) :
    Option String → Except Refusal Cluster
  | none => .ok (bare flag)
  | some value =>
      if flag.takesValue then .ok ⟨[(flag, some value)], none⟩
      else if short && !value.isEmpty then ofLetters flag value.toList
      else .error (.ignoredValue flag value)

end Cluster

/-- What the arguments have settled so far.  Policy and buffer size have a
value from the start, and lack one only if it was taken away. -/
structure Settings where
  input : Option String := none
  output : Option String := none
  policy : Option StaticPolicy := some .symbols
  scriptName : Option String := none
  buffer : Option Int := some 65536
  verbose : Bool := false
  unused : List String := []
  deriving DecidableEq, Repr

/-- Why the arguments are not acted on. -/
inductive Stop where
  | help
  | refused (refusal : Refusal)
  deriving DecidableEq, Repr

namespace Settings

def withdraw (settings : Settings) : Flag → Settings
  | .help | .verbose => settings
  | .output => { settings with output := none }
  | .static => { settings with policy := none }
  | .scriptName => { settings with scriptName := none }
  | .buffer => { settings with buffer := none }

def assign (settings : Settings) (flag : Flag) (value : String) :
    Except Stop Settings :=
  match flag with
  | .help => .error .help
  | .verbose => .ok { settings with verbose := true }
  | .output => .ok { settings with output := some value }
  | .scriptName => .ok { settings with scriptName := some value }
  | .static =>
      match StaticPolicy.ofName? value with
      | some policy => .ok { settings with policy := some policy }
      | none => .error (.refused (.invalidPolicy value))
  | .buffer =>
      match Text.readInteger? value with
      | some buffer => .ok { settings with buffer := some buffer }
      | none => .error (.refused (.invalidBuffer value))

/-- Settle an option.  A double dash is no value but the lack of one. -/
def settle (settings : Settings) (flag : Flag) (value : String) :
    Except Stop Settings :=
  if value = "--" then .ok (settings.withdraw flag)
  else settings.assign flag value

def settleAll (settings : Settings) :
    List (Flag × Option String) → Except Stop Settings
  | [] => .ok settings
  | (flag, value) :: rest => do
      let settings ← settings.settle flag (value.getD "")
      settings.settleAll rest

def setAside (settings : Settings) (text : String) : Settings :=
  { settings with unused := settings.unused ++ [text] }

/-- Act on arguments from left to right.  The first plain argument is the input,
and a separator next to it belongs to it. -/
def act (settings : Settings) : List Argument → Except Stop Settings
  | [] => .ok settings
  | .plain text :: rest =>
      match settings.input with
      | some _ => (settings.setAside text).act rest
      | none =>
          match rest with
          | .separator :: rest => { settings with input := some text }.act rest
          | rest => { settings with input := some text }.act rest
  | .separator :: rest =>
      match settings.input, rest with
      | none, .plain text :: rest => { settings with input := some text }.act rest
      | _, rest => (settings.setAside "--").act rest
  | .unknown text :: rest => (settings.setAside text).act rest
  | .option flag short value :: rest =>
      match Cluster.ofOption flag short value with
      | .error refusal => .error (.refused refusal)
      | .ok ⟨settled, none⟩ =>
          match settings.settleAll settled with
          | .error stop => .error stop
          | .ok settings => settings.act rest
      | .ok ⟨settled, some waiting⟩ =>
          match rest with
          | .plain value :: rest =>
              match settings.settleAll (settled ++ [(waiting, some value)]) with
              | .error stop => .error stop
              | .ok settings => settings.act rest
          | _ => .error (.refused (.expectedValue waiting))

end Settings

/-- What a command line asks for. -/
structure Options where
  input : String
  output : Option String
  policy : Option StaticPolicy
  scriptName : Option String
  buffer : Option Int
  verbose : Bool
  deriving DecidableEq, Repr

/-- Read a command line.  A missing input is reported before arguments that
found no use. -/
def Options.parse (arguments : List String) : Except Stop Options :=
  match Argument.classifyAll arguments with
  | .error refusal => .error (.refused refusal)
  | .ok arguments =>
      match ({} : Settings).act arguments with
      | .error stop => .error stop
      | .ok settings =>
          match settings.input, settings.unused with
          | none, _ => .error (.refused .missingInput)
          | some input, [] =>
              .ok ⟨input, settings.output, settings.policy, settings.scriptName,
                settings.buffer, settings.verbose⟩
          | some _, unused => .error (.refused (.unrecognized unused))

end CommandLine

end StackCompiler
