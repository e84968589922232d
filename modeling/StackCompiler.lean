import StackCompiler.Address
import StackCompiler.Assembly.Instruction
import StackCompiler.Assembly.Program
import StackCompiler.Codegen
import StackCompiler.Command.Basic
import StackCompiler.Command.Parser
import StackCompiler.CommandLine.Arguments
import StackCompiler.CommandLine.Run
import StackCompiler.Compilation
import StackCompiler.Diagnostic
import StackCompiler.Enumeration
import StackCompiler.FileSystem.Basic
import StackCompiler.FileSystem.Path
import StackCompiler.FileSystem.TextFile
import StackCompiler.HostWord
import StackCompiler.Machine.Basic
import StackCompiler.Machine.Memory
import StackCompiler.Machine.SymbolTable
import StackCompiler.Main
import StackCompiler.Proofs.AddressIdentity
import StackCompiler.Proofs.BlockEffect
import StackCompiler.Proofs.CommandEffect
import StackCompiler.Proofs.CommandLineAgreement
import StackCompiler.Proofs.CommandReading
import StackCompiler.Proofs.CommentExtent
import StackCompiler.Proofs.CompilationExact
import StackCompiler.Proofs.DigitLimit
import StackCompiler.Proofs.Execution
import StackCompiler.Proofs.Explanation
import StackCompiler.Proofs.FileEffects
import StackCompiler.Proofs.GeneratedCode
import StackCompiler.Proofs.Grammar
import StackCompiler.Proofs.HostStack
import StackCompiler.Proofs.LineCleaning
import StackCompiler.Proofs.LinePass
import StackCompiler.Proofs.Loading
import StackCompiler.Proofs.MemoryLayout
import StackCompiler.Proofs.PolicyComparison
import StackCompiler.Proofs.PrintedCode
import StackCompiler.Proofs.PrintedCommand
import StackCompiler.Proofs.ProgramText
import StackCompiler.Proofs.PushPop
import StackCompiler.Proofs.QuotedText
import StackCompiler.Proofs.ScriptRenaming
import StackCompiler.Proofs.SignedArithmetic
import StackCompiler.Proofs.Simulation
import StackCompiler.Proofs.SourceLines
import StackCompiler.Proofs.StackMachine
import StackCompiler.Proofs.StaticIsolation
import StackCompiler.Proofs.StaticTable
import StackCompiler.Proofs.SymbolAllocation
import StackCompiler.Proofs.TokenDependence
import StackCompiler.Proofs.Tokens
import StackCompiler.Proofs.Trimming
import StackCompiler.Proofs.UniqueDecoding
import StackCompiler.Proofs.Verdict
import StackCompiler.Proofs.WordSafety
import StackCompiler.Rejection
import StackCompiler.Source
import StackCompiler.Text.Blank
import StackCompiler.Text.Digit
import StackCompiler.Text.Line
import StackCompiler.Text.Numeral
import StackCompiler.Text.Printable
import StackCompiler.Text.Quoted
import StackCompiler.Text.Utf8
