import StackCompiler.CommandLine.Run

/-!
# The program

The program takes a snapshot of the files that its arguments speak of, runs the
command line on it, and carries out what the run changed.
-/

namespace StackCompiler

namespace CommandLine

def probe (name : String) : IO (Option Entry) := do
  match ← (IO.FS.realPath name).toBaseIO with
  | .error _ => return none
  | .ok target =>
      if ← target.isDir then
        return some .directory
      match ← (IO.FS.readBinFile target).toBaseIO with
      | .error _ => return none
      | .ok content => return some (.file content.toList)

/-- Enter a path and everything on the way to it into a file system. -/
def record (files : FileSystem) (path : Path) : IO FileSystem := do
  let mut files := files
  for count in List.range (path.parts.length + 1) do
    let step : Path := ⟨path.anchor, path.parts.take count⟩
    let place := FileSystem.followBlindly (files.start path) step.parts
    if let some entry ← probe step.print then
      files := files.insert place entry
  return files

/-- The file system as far as the arguments speak of it. -/
def snapshot (arguments : List String) : IO FileSystem := do
  let here := Path.ofString (← IO.currentDir).toString
  let mut files ← record ⟨[], here.parts⟩ here
  if let .ok options := Options.parse arguments then
    for path in options.paths do
      files ← record files path
  return files

def realise (place : Place) (entry : Entry) : IO Unit := do
  let name := "/" ++ "/".intercalate place
  match entry with
  | .directory => IO.FS.createDirAll name
  | .file content => IO.FS.writeBinFile name content.toByteArray

end CommandLine

end StackCompiler

open StackCompiler in
/-- Run the command line on the actual file system. -/
def main (arguments : List String) : IO UInt32 := do
  let files ← CommandLine.snapshot arguments
  let outcome := CommandLine.run arguments files
  for (place, entry) in outcome.files.changes files do
    CommandLine.realise place entry
  IO.print outcome.output
  IO.eprint outcome.errors
  match outcome.ending with
  | .exit code => return code.toUInt32
  | .crash cause =>
      IO.eprintln cause.message
      return 1
