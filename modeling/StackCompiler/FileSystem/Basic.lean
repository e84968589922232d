import StackCompiler.FileSystem.Path

/-!
# File systems

A file system lists the directories and files below the top, each under its
place: the list of names that leads to it.  Following a path goes through
directories only, and double dots lead to the directory above.  Names and
printed paths are limited in length, counted in bytes.

Directories and regular files are all there is.  There are no links, so double
dots undo the name before them; there are no permissions, so no access is denied;
and there are no special files, so a file that was written and is read again
gives the same bytes.
-/

namespace StackCompiler

/-- The names that lead from the top to a file or directory. -/
abbrev Place := List String

/-- What is found at a place. -/
inductive Entry where
  | directory
  | file (content : List UInt8)
  deriving DecidableEq, Repr

/-- Why a path cannot be used. -/
inductive PathFault where
  /-- A directory on the way, or the file itself, does not exist. -/
  | missing
  | exists
  /-- A file stands where the path needs a directory. -/
  | notDirectory
  | isDirectory
  | embeddedNull
  /-- A name on the way, or the path as a whole, is too long. -/
  | nameTooLong
  deriving DecidableEq, Repr

/-- A path that cannot be used. -/
structure PathFailure where
  fault : PathFault
  path : Path
  deriving DecidableEq, Repr

def PathFailure.message (failure : PathFailure) : String :=
  let place := ": " ++ Text.quote failure.path.print
  match failure.fault with
  | .missing => "[Errno 2] No such file or directory" ++ place
  | .exists => "[Errno 17] File exists" ++ place
  | .notDirectory => "[Errno 20] Not a directory" ++ place
  | .isDirectory => "[Errno 21] Is a directory" ++ place
  | .embeddedNull => "embedded null byte"
  | .nameTooLong => "[Errno 36] File name too long" ++ place

/-- The directories and files below the top, and the place of the working
directory. -/
structure FileSystem where
  entries : List (Place × Entry)
  working : Place
  deriving DecidableEq, Repr

namespace FileSystem

/-- What is found at a place.  The top is always a directory. -/
def entry? (files : FileSystem) (place : Place) : Option Entry :=
  if place = [] then some .directory else files.entries.lookup place

/-- Put an entry at a place, over the one that may be there. -/
def insertEntry (place : Place) (entry : Entry) :
    List (Place × Entry) → List (Place × Entry)
  | [] => [(place, entry)]
  | (other, old) :: rest =>
      if place = other then (place, entry) :: rest
      else (other, old) :: insertEntry place entry rest

def insert (files : FileSystem) (place : Place) (entry : Entry) : FileSystem :=
  { files with entries := insertEntry place entry files.entries }

def start (files : FileSystem) (path : Path) : Place :=
  match path.anchor with
  | .working => files.working
  | .top | .doubledTop => []

def nameLimit : Nat := 255

/-- The greatest number of bytes in a printed path. -/
def pathLimit : Nat := 4095

/-- Refuse a path that leads nowhere in any file system. -/
def checkPath (path : Path) : Except PathFault Unit :=
  if path.parts.any fun part => part.toList.contains '\x00' then
    .error .embeddedNull
  else if pathLimit < path.print.utf8ByteSize then
    .error .nameTooLong
  else
    .ok ()

/-- Follow names from a place.  Every place that is left has to be a directory,
and only then does the next name count; the last place reached need not
exist. -/
def follow (files : FileSystem) (place : Place) : List String →
    Except PathFault Place
  | [] => .ok place
  | part :: rest =>
      match files.entry? place with
      | some .directory =>
          if nameLimit < part.utf8ByteSize then
            .error .nameTooLong
          else
            files.follow
              (if part = ".." then place.dropLast else place ++ [part]) rest
      | some (.file _) => .error .notDirectory
      | none => .error .missing

def find (files : FileSystem) (path : Path) : Except PathFault Entry := do
  checkPath path
  let place ← files.follow (files.start path) path.parts
  match files.entry? place with
  | some entry => return entry
  | none => .error .missing

def isDirectory (files : FileSystem) (path : Path) : Bool :=
  (files.find path).toOption == some .directory

/-- The directory that holds the last name of a path. -/
def parentPlace (files : FileSystem) (path : Path) : Except PathFault Place := do
  let place ← files.follow (files.start path) path.parts.dropLast
  match files.entry? place with
  | some .directory => return place
  | some (.file _) => .error .notDirectory
  | none => .error .missing

/-- The place of the last name of a path, in a directory that exists.  The top,
the working directory and double dots have no such place. -/
def target? (files : FileSystem) (path : Path) :
    Except PathFault (Option Place) := do
  checkPath path
  match path.parts.getLast? with
  | none => return none
  | some name =>
      let parent ← files.parentPlace path
      if name = ".." then
        return none
      else if nameLimit < name.utf8ByteSize then
        .error .nameTooLong
      else
        return some (parent ++ [name])

def createDirectory (files : FileSystem) (path : Path) :
    Except PathFault FileSystem := do
  match ← files.target? path with
  | none => .error .exists
  | some place =>
      if (files.entry? place).isSome then .error .exists
      else return files.insert place .directory

/-- Accept a directory that is there already in place of a failure to create
it. -/
def acceptDirectory (files : FileSystem) (path : Path) (fault : PathFault) :
    FileSystem × Option PathFailure :=
  if files.isDirectory path then (files, none)
  else (files, some ⟨fault, path⟩)

/-- Create a directory and those above it, as far as they are missing.  What
was created before a failure stays. -/
def ensureDirectory (files : FileSystem) (path : Path) :
    FileSystem × Option PathFailure :=
  match files.createDirectory path with
  | .ok files => (files, none)
  | .error .missing =>
      if _ : path.parts = [] then
        (files, some ⟨.missing, path⟩)
      else
        match files.ensureDirectory path.parent with
        | (files, some failure) => (files, some failure)
        | (files, none) =>
            match files.createDirectory path with
            | .ok files => (files, none)
            | .error .missing => (files, some ⟨.missing, path⟩)
            | .error fault => files.acceptDirectory path fault
  | .error fault => files.acceptDirectory path fault
termination_by path.parts.length
decreasing_by
  rename_i proper
  have := List.length_pos_iff.mpr proper
  simp only [Path.parent, List.length_dropLast]
  omega

/-- Write a file, over one that may be there. -/
def writeFile (files : FileSystem) (path : Path) (content : List UInt8) :
    Except PathFault FileSystem := do
  match ← files.target? path with
  | none => .error .isDirectory
  | some place =>
      if files.entry? place = some .directory then .error .isDirectory
      else return files.insert place (.file content)

def readFile (files : FileSystem) (path : Path) : Except PathFault (List UInt8) := do
  match ← files.find path with
  | .directory => .error .isDirectory
  | .file content => return content

/-- The entries of one file system that another one lacks. -/
def changes (files before : FileSystem) : List (Place × Entry) :=
  files.entries.filter fun (place, entry) => before.entry? place != some entry

def followBlindly (place : Place) (parts : List String) : Place :=
  parts.foldl
    (fun place part => if part = ".." then place.dropLast else place ++ [part])
    place

/-- The printed form of a path from the top, with double dots resolved. -/
def absolute (files : FileSystem) (path : Path) : String :=
  "/" ++ "/".intercalate (followBlindly (files.start path) path.parts)

end FileSystem

end StackCompiler
