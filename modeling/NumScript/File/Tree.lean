import NumScript.File.Error

/-!
# File trees

The files below one directory, as a value: each with the names that lead to it and its bytes.
Directories are not listed; there is one wherever a file lies below it, and the root is always one.

A path is followed name by name (`FileTree.follow`). Every name but the last has to lead to a
directory; `.` and an empty name stay where they are and `..` goes up. A path that begins with a
slash has an empty name in front, so it too is followed from the root of the tree and not from some
directory above. Above the root a path leaves the tree: of what lies there only the directories that
hold the root are known.
-/

namespace NumScript

/-- The names that lead from the root to a file or directory. Above the root they begin with `..`,
    once for each step up. -/
abbrev Location := List String

namespace Location

/-- Whether a location is the root or a directory that holds it. -/
def holdsRoot (location : Location) : Bool := location.all (· == "..")

/-- The directory that a location lies in. -/
def parent (location : Location) : Location :=
  if location.holdsRoot then ".." :: location else location.dropLast

/-- Whether a location lies in the tree. -/
def isInside (location : Location) : Bool := location.head? != some ".."

end Location

/-- The files below one directory. -/
structure FileTree where
  /-- Where each file lies, and its bytes. -/
  files : List (Location × ByteArray)

namespace FileTree

/-! ## 1. What lies where -/

/-- The bytes of the file at a location. -/
def content? (tree : FileTree) (location : Location) : Option ByteArray :=
  tree.files.lookup location

/-- Whether there is a directory at a location. -/
def isDirectory (tree : FileTree) (location : Location) : Bool :=
  location.holdsRoot || tree.files.any fun file =>
    location.isPrefixOf file.1 && location.length < file.1.length

/-- The most bytes that a name can have. -/
def nameLimit : Nat := 255

/-- The most bytes that a path can have. -/
def pathLimit : Nat := 4095

/-- The location that the names of a path lead to, from a directory on. An empty name in front, as in a
    path that begins with a slash, is skipped like any other: it does not lead out of the tree. -/
def follow (tree : FileTree) (here : Location) : List String → Except FileError Location
  | [] => .ok here
  | name :: rest =>
    if name = "" ∨ name = "." then tree.follow here rest
    else if name = ".." then tree.follow here.parent rest
    else if nameLimit < name.utf8ByteSize then .error .nameTooLong
    else
      let there := here ++ [name]
      if rest.isEmpty then .ok there
      else if tree.isDirectory there then tree.follow there rest
      else if (tree.content? there).isSome then .error .notDirectory
      else .error .notFound

/-- The pieces of a text between slashes; there is one more of them than there are slashes. -/
def pieces : List Char → List (List Char)
  | [] => [[]]
  | c :: rest =>
    match pieces rest with
    | [] => [[c]]
    | first :: others => if c = '/' then [] :: first :: others else (c :: first) :: others

/-- The names of a path. -/
def pathNames (path : String) : List String := (pieces path.toList).map String.ofList

/-- The names of a path that a system would follow: there are none in an empty path, and none in one
    that is too long. -/
def checkedNames (path : String) : Except FileError (List String) :=
  if path = "" then .error .notFound
  else if pathLimit < path.utf8ByteSize then .error .nameTooLong
  else .ok (pathNames path)

/-- The location that a path leads to. -/
def locate (tree : FileTree) (path : String) : Except FileError Location := do
  tree.follow [] (← checkedNames path)

/-! ## 2. Reading and writing -/

/-- The text of the file that a path leads to. -/
def read (tree : FileTree) (path : String) : Except FileError String := do
  let location ← tree.locate path
  if tree.isDirectory location then throw .isDirectory
  match tree.content? location with
  | none => throw .notFound
  | some bytes =>
    match String.fromUTF8? bytes with
    | none => throw .invalidText
    | some text => pure text

/-- The tree with these bytes at a location, where no directory is. -/
def put (tree : FileTree) (location : Location) (bytes : ByteArray) : FileTree :=
  if (tree.content? location).isSome then
    ⟨tree.files.map fun file => if file.1 = location then (location, bytes) else file⟩
  else ⟨tree.files ++ [(location, bytes)]⟩

theorem lookup_replace (location : Location) (bytes : ByteArray) (other : Location) :
    ∀ files : List (Location × ByteArray),
      (files.map fun file => if file.1 = location then (location, bytes) else file).lookup other =
        if other = location then (files.lookup location).map fun _ => bytes
        else files.lookup other
  | [] => by simp
  | file :: rest => by
    have ih := lookup_replace location bytes other rest
    obtain ⟨place, old⟩ := file
    by_cases here : place = location
    · subst here
      by_cases same : other = place
      · simp [same]
      · have apart : (other == place) = false := beq_eq_false_iff_ne.mpr same
        simp [same, ih, List.lookup_cons, apart]
    · by_cases same : other = location
      · subst same
        have apart : (other == place) = false := beq_eq_false_iff_ne.mpr fun h => here h.symm
        simpa [here, List.lookup_cons, apart] using ih
      · simp [here, same, ih, List.lookup_cons]

/-- **What lies where after a file was put:** the new bytes there, and everywhere else what lay there
    before. -/
theorem content?_put (tree : FileTree) (location other : Location) (bytes : ByteArray) :
    (tree.put location bytes).content? other =
      if other = location then some bytes else tree.content? other := by
  unfold put content?
  split
  · rename_i known
    rw [lookup_replace]
    obtain ⟨old, found⟩ := Option.isSome_iff_exists.mp known
    rw [found]
    rfl
  · rename_i unknown
    rw [List.lookup_append]
    by_cases same : other = location
    · subst same
      simp only [Option.not_isSome_iff_eq_none] at unknown
      simp [unknown]
    · have apart : (other == location) = false := beq_eq_false_iff_ne.mpr same
      simp [same, List.lookup_cons, apart]

/-- Where a file would be written. A path that ends in slashes can only mean a directory: its last
    name is not looked at, but the directory that the name stands in has to be there. -/
def locateForWriting (tree : FileTree) (path : String) : Except FileError Location := do
  let names ← checkedNames path
  if names.getLast? = some "" then
    let _ ← tree.follow [] ((names.reverse.dropWhile (· == "")).tail.reverse ++ [""])
    throw .isDirectory
  tree.follow [] names

/-- The tree after a text was written to the file that a path leads to. A write fails only by its path:
    the file is emptied first and then filled, and that the second part fails, by a full device for
    example, is left out. -/
def write (tree : FileTree) (path text : String) : Except FileError FileTree := do
  let location ← tree.locateForWriting path
  if tree.isDirectory location then throw .isDirectory
  pure (tree.put location text.toUTF8)

/-- The files in a tree that an earlier one does not hold with the same bytes. -/
def changedSince (tree earlier : FileTree) : List (Location × ByteArray) :=
  tree.files.filter fun file => file.1.isInside && earlier.content? file.1 != some file.2

end FileTree

end NumScript
