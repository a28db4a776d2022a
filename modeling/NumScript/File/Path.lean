/-!
# Names of output files

The files that a command writes are named after its input: the extension of the input is taken away
and another one put in its place. This file says what the extension of a path is and how it is
changed:

* the NAME is what follows the last slash, and everything before it is kept as it is written;
* the EXTENSION is what follows the last point of the name, unless that point is its first character;
  the rest, without the point, is the STEM;
* `.` and `..` name directories and have no extension that could be changed.
-/

namespace NumScript.Path

/-! ## 1. Parts of a path -/

/-- What stands before and after the last occurrence of a character. -/
def splitAtLast (mark : Char) : List Char → Option (List Char × List Char)
  | [] => none
  | c :: rest =>
    match splitAtLast mark rest with
    | some (before, after) => some (c :: before, after)
    | none => if c = mark then some ([], rest) else none

theorem splitAtLast_eq_none_iff (mark : Char) : ∀ text : List Char,
    splitAtLast mark text = none ↔ mark ∉ text
  | [] => by simp [splitAtLast]
  | c :: rest => by
    have ih := splitAtLast_eq_none_iff mark rest
    rw [splitAtLast]
    cases found : splitAtLast mark rest with
    | some parts =>
      have inside : mark ∈ rest := by
        refine Classical.byContradiction fun absent => ?_
        rw [ih.mpr absent] at found
        cases found
      simp [inside]
    | none =>
      have absent := ih.mp found
      by_cases same : c = mark
      · simp [same]
      · have other : mark ≠ c := fun h => same h.symm
        simp [same, other, absent]

/-- The split is at the mark, and no mark follows it. -/
theorem splitAtLast_eq_some {mark : Char} : ∀ {text before after : List Char},
    splitAtLast mark text = some (before, after) → text = before ++ mark :: after ∧ mark ∉ after
  | [], _, _, h => by cases h
  | c :: rest, before, after, h => by
    rw [splitAtLast] at h
    cases found : splitAtLast mark rest with
    | some parts =>
      obtain ⟨inner, last⟩ := parts
      rw [found] at h
      cases h
      obtain ⟨whole, absent⟩ := splitAtLast_eq_some found
      rw [whole]
      exact ⟨rfl, absent⟩
    | none =>
      rw [found] at h
      have absent := (splitAtLast_eq_none_iff mark rest).mp found
      by_cases same : c = mark
      · rw [if_pos same] at h
        cases h
        rw [same]
        exact ⟨rfl, absent⟩
      · rw [if_neg same] at h
        cases h

/-- The directory part of a path with its slash, and the name after it. -/
def splitName (path : List Char) : List Char × List Char :=
  match splitAtLast '/' path with
  | some (directory, name) => (directory ++ ['/'], name)
  | none => ([], path)

/-- Whether a name can be that of a file. -/
def isFileName (name : List Char) : Bool := name != [] && name != ['.'] && name != ['.', '.']

/-- The stem and the extension of a name. -/
def splitExtension (name : List Char) : List Char × Option (List Char) :=
  match splitAtLast '.' name with
  | none => (name, none)
  | some ([], _) => (name, none)
  | some (stem, extension) => (stem, some extension)

/-! ## 2. Another extension -/

/-- The stem of a name with this extension; an empty one takes the point with it. -/
def renameTo (extension name : List Char) : List Char :=
  if isFileName name then
    (splitExtension name).1 ++ if extension = [] then [] else '.' :: extension
  else name

/-- A name with another extension. The old one is taken away first, its point excepted, and only then
    the name is looked at again: `..a` becomes `..` in this way, which names a directory. -/
def changeName (extension name : List Char) : List Char :=
  if isFileName name then
    match splitExtension name with
    | (stem, some _) => renameTo extension (stem ++ ['.'])
    | (_, none) => renameTo extension name
  else name

/-- A path with another extension. -/
def withExtension (extension path : String) : String :=
  let parts := splitName path.toList
  String.ofList (parts.1 ++ changeName extension.toList parts.2)

/-- The path next to an input file with another extension: of several extensions of the input the
    last two are taken away, because the first change takes one and the second another. -/
def besides (extension input : String) : String :=
  withExtension extension (withExtension "" input)

/-! ## 3. The odd cases -/

example : besides "wat" "a.js" = "a.wat" := by decide +kernel
example : besides "wat" "a.b.js" = "a.wat" := by decide +kernel
example : besides "wat" "d.x/a" = "d.x/a.wat" := by decide +kernel
example : besides "wat" ".hidden" = ".hidden.wat" := by decide +kernel
example : besides "wat" "a..js" = "a.wat" := by decide +kernel
example : besides "wat" "..a.js" = ".." := by decide +kernel

end NumScript.Path
