import Mathlib.Data.List.Basic
import StackCompiler.FileSystem.Basic

/-!
# Creating and writing in a file tree

A file system is a tree if every entry lies in a directory.  Creating
directories and writing files keep it one, and keep every directory, so that a
path which could be followed before leads to the same place afterwards.  A
directory that was ensured is therefore found again, and what was written to a
file is read back from it.
-/

namespace StackCompiler

theorem bind_eq_ok_iff {Cause First Second : Type} {outcome : Except Cause First}
    {next : First → Except Cause Second} {result : Second} :
    (outcome >>= next) = .ok result ↔
      ∃ middle, outcome = .ok middle ∧ next middle = .ok result := by
  cases outcome with
  | error cause => simp [bind, Except.bind]
  | ok middle => simp [bind, Except.bind]

/-- Whether a file can be named by a path: it has no null character and is not
too long, as a whole and in its last name. -/
def Path.NamesFile (path : Path) : Prop :=
  FileSystem.checkPath path = .ok () ∧ path.name.utf8ByteSize ≤ FileSystem.nameLimit

namespace FileSystem

variable {files after : FileSystem} {path : Path} {place : Place}

theorem entry?_top (files : FileSystem) : files.entry? [] = some .directory := by
  rw [ entry?, if_pos rfl]

theorem lookup_cons_eq_ite (first other : Place) (entry : Entry)
    (rest : List (Place × Entry)) :
    ((first, entry) :: rest).lookup other =
      if other = first then some entry else rest.lookup other := by
  rw [List.lookup_cons]
  by_cases same : other = first
  · rw [if_pos same, same, beq_self_eq_true]
  · rw [if_neg same, beq_eq_false_iff_ne.mpr same]

theorem lookup_insertEntry (entries : List (Place × Entry)) (place other : Place)
    (entry : Entry) :
    (insertEntry place entry entries).lookup other =
      if other = place then some entry else entries.lookup other := by
  induction entries with
  | nil => rw [insertEntry, lookup_cons_eq_ite]
  | cons head rest ih =>
      obtain ⟨first, old⟩ := head
      rw [insertEntry, lookup_cons_eq_ite first]
      by_cases replaced : place = first
      · rw [if_pos replaced, lookup_cons_eq_ite, ← replaced]
        split <;> rfl
      · rw [if_neg replaced, lookup_cons_eq_ite, ih]
        by_cases isFirst : other = first
        · rw [if_pos isFirst, if_neg (fun same => replaced (same.symm.trans isFirst)),
            if_pos isFirst]
        · rw [if_neg isFirst, if_neg isFirst]

theorem entry?_insert {other : Place} {entry : Entry} (proper : place ≠ []) :
    FileSystem.entry? (files.insert place entry) other =
      if other = place then some entry else files.entry? other := by
  simp only [ entry?, insert, lookup_insertEntry]
  by_cases isTop : other = []
  · subst isTop
    rw [if_pos rfl, if_neg (Ne.symm proper), if_pos rfl]
  · rw [if_neg isTop, if_neg isTop]

/-- Whether every entry lies in a directory, and the working directory is
one. -/
structure IsTree (files : FileSystem) : Prop where
  working : files.entry? files.working = some .directory
  parents : ∀ place entry, files.entry? place = some entry →
    files.entry? place.dropLast = some .directory

theorem IsTree.entry?_start (tree : files.IsTree) (path : Path) :
    files.entry? (files.start path) = some .directory := by
  rw [start]
  split
  · exact tree.working
  · exact files.entry?_top
  · exact files.entry?_top

theorem isTree_of_entries (working : files.entry? files.working = some .directory)
    (parents : ∀ entry ∈ files.entries,
      files.entry? entry.1.dropLast = some .directory) : files.IsTree := by
  refine ⟨working, ?_⟩
  intro place entry found
  by_cases isTop : place = []
  · subst isTop
    exact files.entry?_top
  · rw [ entry?, if_neg isTop] at found
    obtain ⟨front, back, entries, _⟩ := List.lookup_eq_some_iff.mp found
    exact parents (place, entry) (by simp [entries])

/-- Whether every directory of a file system is one in another, with the same
working directory. -/
structure KeepsDirectories (files after : FileSystem) : Prop where
  working : after.working = files.working
  directories : ∀ place, files.entry? place = some .directory →
    after.entry? place = some .directory

theorem keepsDirectories_insert {entry : Entry} (proper : place ≠ [])
    (kept : files.entry? place = some .directory → entry = .directory) :
    files.KeepsDirectories (files.insert place entry) := by
  refine ⟨rfl, fun other isDirectory => ?_⟩
  rw [entry?_insert proper]
  split
  next same =>
    rw [same] at isDirectory
    rw [kept isDirectory]
  next => exact isDirectory

theorem IsTree.insert (tree : files.IsTree) {entry : Entry} (proper : place ≠ [])
    (parent : files.entry? place.dropLast = some .directory)
    (kept : files.entry? place = some .directory → entry = .directory) :
    (files.insert place entry).IsTree := by
  have keeps := keepsDirectories_insert proper kept
  refine ⟨keeps.directories _ tree.working, ?_⟩
  intro other found isFound
  apply keeps.directories
  rw [entry?_insert proper] at isFound
  split at isFound
  next same =>
    rw [same]
    exact parent
  next => exact tree.parents other found isFound

/-- A step of following a path leaves a directory. -/
theorem follow_cons_eq_ok_iff {start : Place} {part : String} {rest : List String} :
    files.follow start (part :: rest) = .ok place ↔
      files.entry? start = some .directory ∧ part.utf8ByteSize ≤ nameLimit ∧
        files.follow (if part = ".." then start.dropLast else start ++ [part]) rest =
          .ok place := by
  rw [follow]
  split
  next isDirectory =>
    split
    next long => simp [Nat.not_le.mpr long]
    next short => simp [isDirectory, Nat.le_of_not_lt short]
  next isFile => simp [isFile]
  next isMissing => simp [isMissing]

theorem follow_append_eq_ok_iff {start : Place} {front back : List String} :
    files.follow start (front ++ back) = .ok place ↔
      ∃ middle, files.follow start front = .ok middle ∧
        files.follow middle back = .ok place := by
  induction front generalizing start with
  | nil => simp [follow]
  | cons part rest ih =>
      rw [List.cons_append, follow_cons_eq_ok_iff, ih]
      constructor
      · rintro ⟨isDirectory, short, middle, first, second⟩
        exact ⟨middle, follow_cons_eq_ok_iff.mpr ⟨isDirectory, short, first⟩, second⟩
      · rintro ⟨middle, first, second⟩
        obtain ⟨isDirectory, short, first⟩ := follow_cons_eq_ok_iff.mp first
        exact ⟨isDirectory, short, middle, first, second⟩

theorem KeepsDirectories.follow (keeps : files.KeepsDirectories after) {start : Place}
    {parts : List String} (followed : files.follow start parts = .ok place) :
    after.follow start parts = .ok place := by
  induction parts generalizing start with
  | nil => exact followed
  | cons part rest ih =>
      obtain ⟨isDirectory, short, followed⟩ := follow_cons_eq_ok_iff.mp followed
      apply follow_cons_eq_ok_iff.mpr
      exact ⟨keeps.directories start isDirectory, short, ih followed⟩

theorem KeepsDirectories.start_eq (keeps : files.KeepsDirectories after) (path : Path) :
    after.start path = files.start path := by
  rw [start, start, keeps.working]

/-- A path is found if it is acceptable and leads to an entry. -/
theorem find_eq_ok_iff {entry : Entry} :
    files.find path = .ok entry ↔
      checkPath path = .ok () ∧
        ∃ place, files.follow (files.start path) path.parts = .ok place ∧
          files.entry? place = some entry := by
  rw [find, bind_eq_ok_iff]
  constructor
  · rintro ⟨_, accepted, found⟩
    obtain ⟨place, followed, ends⟩ := bind_eq_ok_iff.mp found
    split at ends
    next other isEntry =>
      cases ends
      exact ⟨accepted, place, followed, isEntry⟩
    next => cases ends
  · rintro ⟨accepted, place, followed, isEntry⟩
    refine ⟨(), accepted, bind_eq_ok_iff.mpr ⟨place, followed, ?_⟩⟩
    rw [isEntry]
    rfl

theorem isDirectory_iff :
    files.isDirectory path = true ↔ files.find path = .ok .directory := by
  rw [isDirectory]
  cases files.find path with
  | error fault => simp [Except.toOption]
  | ok entry => simp [Except.toOption]

theorem isDirectory_of_long (long : nameLimit < path.name.utf8ByteSize) :
    files.isDirectory path = false := by
  rw [Bool.eq_false_iff, Ne, isDirectory_iff, find_eq_ok_iff]
  rintro ⟨_, place, followed, _⟩
  rw [Path.name] at long
  cases isLast : path.parts.getLast? with
  | none =>
      rw [isLast] at long
      exact absurd long (by decide)
  | some name =>
      rw [← List.dropLast_append_getLast? name isLast, follow_append_eq_ok_iff] at followed
      obtain ⟨parent, _, stepped⟩ := followed
      obtain ⟨_, short, _⟩ := follow_cons_eq_ok_iff.mp stepped
      rw [isLast] at long
      exact absurd short (Nat.not_le.mpr long)

theorem readFile_eq_ok_iff {content : List UInt8} :
    files.readFile path = .ok content ↔ files.find path = .ok (.file content) := by
  rw [readFile, bind_eq_ok_iff]
  constructor
  · rintro ⟨entry, found, ends⟩
    cases entry with
    | directory => cases ends
    | file other =>
        cases ends
        exact found
  · intro found
    exact ⟨.file content, found, rfl⟩

/-- A file in a tree is not found at the start of a path. -/
theorem IsTree.parts_ne_nil (tree : files.IsTree) {content : List UInt8}
    (readable : files.readFile path = .ok content) : path.parts ≠ [] := by
  intro empty
  obtain ⟨_, place, followed, isFile⟩ := find_eq_ok_iff.mp (readFile_eq_ok_iff.mp readable)
  rw [empty, follow] at followed
  cases followed
  rw [tree.entry?_start path] at isFile
  cases isFile

theorem parentPlace_eq_ok_iff :
    files.parentPlace path = .ok place ↔
      files.follow (files.start path) path.parts.dropLast = .ok place ∧
        files.entry? place = some .directory := by
  rw [parentPlace, bind_eq_ok_iff]
  constructor
  · rintro ⟨parent, followed, ends⟩
    split at ends
    next isDirectory =>
      cases ends
      exact ⟨followed, isDirectory⟩
    next => cases ends
    next => cases ends
  · rintro ⟨followed, isDirectory⟩
    refine ⟨place, followed, ?_⟩
    rw [isDirectory]
    rfl

/-- A path has a target if it is acceptable and ends in a proper name below a
directory. -/
theorem target?_eq_some_iff :
    files.target? path = .ok (some place) ↔
      checkPath path = .ok () ∧ ∃ parent name,
        files.follow (files.start path) path.parts.dropLast = .ok parent ∧
        files.entry? parent = some .directory ∧ path.parts.getLast? = some name ∧
        name ≠ ".." ∧ name.utf8ByteSize ≤ nameLimit ∧ place = parent ++ [name] := by
  rw [target?, bind_eq_ok_iff]
  constructor
  · rintro ⟨_, accepted, ends⟩
    split at ends
    next => cases ends
    next name isLast =>
      obtain ⟨parent, isParent, ends⟩ := bind_eq_ok_iff.mp ends
      obtain ⟨followed, isDirectory⟩ := parentPlace_eq_ok_iff.mp isParent
      split at ends
      next => cases ends
      next proper =>
        split at ends
        next => cases ends
        next short =>
          cases ends
          exact ⟨accepted, parent, name, followed, isDirectory, isLast, proper,
            Nat.le_of_not_lt short, rfl⟩
  · rintro ⟨accepted, parent, name, followed, isDirectory, isLast, proper, short, rfl⟩
    refine ⟨(), accepted, ?_⟩
    rw [isLast]
    apply bind_eq_ok_iff.mpr
    refine ⟨parent, parentPlace_eq_ok_iff.mpr ⟨followed, isDirectory⟩, ?_⟩
    rw [if_neg proper, if_neg (Nat.not_lt.mpr short)]
    rfl

theorem follow_of_last {parent : Place} {name : String}
    (followed : files.follow (files.start path) path.parts.dropLast = .ok parent)
    (isDirectory : files.entry? parent = some .directory)
    (isLast : path.parts.getLast? = some name) (short : name.utf8ByteSize ≤ nameLimit) :
    files.follow (files.start path) path.parts =
      .ok (if name = ".." then parent.dropLast else parent ++ [name]) := by
  rw [← List.dropLast_append_getLast? name isLast, follow_append_eq_ok_iff]
  exact ⟨parent, followed, follow_cons_eq_ok_iff.mpr ⟨isDirectory, short, rfl⟩⟩

/-- What is put at the target of a path is found under that path. -/
theorem find_insert {entry : Entry} (target : files.target? path = .ok (some place))
    (kept : files.entry? place = some .directory → entry = .directory) :
    (files.insert place entry).find path = .ok entry := by
  obtain ⟨accepted, parent, name, followed, isDirectory, isLast, proper, short, rfl⟩ :=
    target?_eq_some_iff.mp target
  have nonempty : parent ++ [name] ≠ [] := by simp
  have keeps := keepsDirectories_insert nonempty kept
  have reached := follow_of_last followed isDirectory isLast short
  rw [if_neg proper, ← keeps.start_eq path] at reached
  apply find_eq_ok_iff.mpr
  refine ⟨accepted, parent ++ [name], keeps.follow reached, ?_⟩
  rw [entry?_insert nonempty, if_pos rfl]

theorem put_eq_ok_iff {target : Except PathFault (Option Place)} {absent taken : PathFault}
    {blocked : Place → Prop} [DecidablePred blocked] {put : Place → FileSystem} :
    (target >>= fun found => match found with
      | none => .error absent
      | some place => if blocked place then .error taken else .ok (put place)) =
        .ok after ↔
      ∃ place, target = .ok (some place) ∧ ¬ blocked place ∧ after = put place := by
  rw [bind_eq_ok_iff]
  constructor
  · rintro ⟨found, isTarget, ends⟩
    cases found with
    | none => cases ends
    | some place =>
        dsimp only at ends
        split at ends
        next => cases ends
        next free =>
          cases ends
          exact ⟨place, isTarget, free, rfl⟩
  · rintro ⟨place, isTarget, free, rfl⟩
    exact ⟨some place, isTarget, if_neg free⟩

theorem createDirectory_eq_ok_iff :
    files.createDirectory path = .ok after ↔
      ∃ place, files.target? path = .ok (some place) ∧
        ¬ (files.entry? place).isSome = true ∧
        after = files.insert place .directory :=
  put_eq_ok_iff

theorem writeFile_eq_ok_iff {content : List UInt8} :
    files.writeFile path content = .ok after ↔
      ∃ place, files.target? path = .ok (some place) ∧
        files.entry? place ≠ some .directory ∧
        after = files.insert place (.file content) :=
  put_eq_ok_iff

/-- The file systems that are reached from one by creating directories. -/
inductive Extends (files : FileSystem) : FileSystem → Prop
  | refl : Extends files files
  | create {middle after : FileSystem} {path : Path} :
      Extends files middle → middle.createDirectory path = .ok after →
        Extends files after

theorem isDirectory_of_createDirectory
    (created : files.createDirectory path = .ok after) : after.isDirectory path = true := by
  obtain ⟨place, target, _, rfl⟩ := createDirectory_eq_ok_iff.mp created
  exact isDirectory_iff.mpr (find_insert target fun _ => rfl)

theorem IsTree.createDirectory (tree : files.IsTree)
    (created : files.createDirectory path = .ok after) : after.IsTree := by
  obtain ⟨place, target, _, rfl⟩ := createDirectory_eq_ok_iff.mp created
  obtain ⟨_, parent, name, _, isDirectory, _, _, _, rfl⟩ := target?_eq_some_iff.mp target
  apply tree.insert (by simp)
  · rw [List.dropLast_concat]
    exact isDirectory
  · exact fun _ => rfl

theorem Extends.isTree (extended : files.Extends after) (tree : files.IsTree) :
    after.IsTree := by
  induction extended with
  | refl => exact tree
  | create _ created ih => exact ih.createDirectory created

theorem acceptDirectory_fst (files : FileSystem) (path : Path) (fault : PathFault) :
    (files.acceptDirectory path fault).1 = files := by
  rw [acceptDirectory]
  split <;> rfl

theorem isDirectory_of_acceptDirectory {fault : PathFault}
    (accepted : (files.acceptDirectory path fault).2 = none) :
    files.isDirectory path = true := by
  rw [acceptDirectory] at accepted
  split at accepted
  next isDirectory => exact isDirectory
  next => cases accepted

theorem ensureDirectory_extends (files : FileSystem) (path : Path) :
    files.Extends (files.ensureDirectory path).1 := by
  fun_induction ensureDirectory files path with
  | case1 path after created => exact .create .refl created
  | case2 => exact .refl
  | case3 path _ _ after failure ensured ih =>
      rw [ensured] at ih
      exact ih
  | case4 path _ _ middle ensured after created ih =>
      rw [ensured] at ih
      exact .create ih created
  | case5 path _ _ after ensured _ ih =>
      rw [ensured] at ih
      exact ih
  | case6 path _ _ after ensured fault _ _ ih =>
      rw [ensured] at ih
      rw [acceptDirectory_fst]
      exact ih
  | case7 path fault =>
      rw [acceptDirectory_fst]
      exact .refl

/-- A directory that was ensured is there. -/
theorem isDirectory_of_ensureDirectory
    (ensured : (files.ensureDirectory path).2 = none) :
    (files.ensureDirectory path).1.isDirectory path = true := by
  fun_induction ensureDirectory files path with
  | case1 path after created => exact isDirectory_of_createDirectory created
  | case2 => cases ensured
  | case3 => cases ensured
  | case4 path _ _ middle _ after created => exact isDirectory_of_createDirectory created
  | case5 => cases ensured
  | case6 path _ _ middle _ fault =>
      rw [acceptDirectory_fst]
      exact isDirectory_of_acceptDirectory ensured
  | case7 path fault =>
      rw [acceptDirectory_fst]
      exact isDirectory_of_acceptDirectory ensured

/-- Where a path starts there is a directory already. -/
theorem IsTree.ensureDirectory_start (tree : files.IsTree) (anchor : Anchor) :
    files.ensureDirectory ⟨anchor, []⟩ = (files, none) := by
  have accepted : checkPath ⟨anchor, []⟩ = .ok () := by
    cases anchor <;> decide
  have untargeted : files.target? ⟨anchor, []⟩ = .ok none := by
    rw [target?, accepted]
    rfl
  have there : files.createDirectory ⟨anchor, []⟩ = .error .exists := by
    rw [FileSystem.createDirectory, untargeted]
    rfl
  have found : files.isDirectory ⟨anchor, []⟩ = true := by
    apply isDirectory_iff.mpr
    apply find_eq_ok_iff.mpr
    exact ⟨accepted, _, rfl, tree.entry?_start _⟩
  rw [ensureDirectory]
  simp only [there, acceptDirectory, found, if_true]

/-- In a tree, a path below a directory has a target unless it is a directory
itself, as the top, the working directory and double dots are. -/
theorem IsTree.exists_target (tree : files.IsTree)
    (parentFound : files.isDirectory path.parent = true)
    (notDirectory : files.isDirectory path = false) (named : path.NamesFile) :
    ∃ place, files.target? path = .ok (some place) ∧
      files.entry? place ≠ some .directory := by
  obtain ⟨accepted, short⟩ := named
  have unfound : ∀ place, files.follow (files.start path) path.parts = .ok place →
      files.entry? place ≠ some .directory := by
    intro place followed isDirectory
    have found := find_eq_ok_iff.mpr ⟨accepted, place, followed, isDirectory⟩
    rw [← isDirectory_iff, notDirectory] at found
    cases found
  obtain ⟨_, parent, followed, isDirectory⟩ :=
    find_eq_ok_iff.mp (isDirectory_iff.mp parentFound)
  change files.follow (files.start path) path.parts.dropLast = .ok parent at followed
  rw [Path.name] at short
  cases isLast : path.parts.getLast? with
  -- Without a last name the path stays where it starts, which is a directory, and
  -- double dots lead to the directory above the parent.
  | none =>
      have empty := List.getLast?_eq_none_iff.mp isLast
      have atStart : files.follow (files.start path) path.parts =
          .ok (files.start path) := by
        rw [empty, follow]
      exact absurd (tree.entry?_start path) (unfound _ atStart)
  | some name =>
      rw [isLast] at short
      have reached := follow_of_last followed isDirectory isLast short
      by_cases dots : name = ".."
      · rw [if_pos dots] at reached
        exact absurd (tree.parents parent _ isDirectory) (unfound _ reached)
      · rw [if_neg dots] at reached
        refine ⟨parent ++ [name], target?_eq_some_iff.mpr ?_, unfound _ reached⟩
        exact ⟨accepted, parent, name, followed, isDirectory, isLast, dots, short, rfl⟩

theorem IsTree.exists_writeFile_eq_ok (tree : files.IsTree)
    (parentFound : files.isDirectory path.parent = true)
    (notDirectory : files.isDirectory path = false) (named : path.NamesFile)
    (content : List UInt8) : ∃ after, files.writeFile path content = .ok after := by
  obtain ⟨place, target, free⟩ := tree.exists_target parentFound notDirectory named
  exact ⟨_, writeFile_eq_ok_iff.mpr ⟨place, target, free, rfl⟩⟩

/-- What is written to a file is read back from it. -/
theorem readFile_of_writeFile {content : List UInt8}
    (written : files.writeFile path content = .ok after) :
    after.readFile path = .ok content := by
  obtain ⟨place, target, free, rfl⟩ := writeFile_eq_ok_iff.mp written
  apply readFile_eq_ok_iff.mpr
  exact find_insert target fun isDirectory => absurd isDirectory free

theorem namesFile_of_writeFile {content : List UInt8}
    (written : files.writeFile path content = .ok after) : path.NamesFile := by
  obtain ⟨place, target, _⟩ := writeFile_eq_ok_iff.mp written
  obtain ⟨accepted, parent, name, _, _, isLast, _, short, _⟩ :=
    target?_eq_some_iff.mp target
  refine ⟨accepted, ?_⟩
  rw [Path.name, isLast]
  exact short

end FileSystem

end StackCompiler
