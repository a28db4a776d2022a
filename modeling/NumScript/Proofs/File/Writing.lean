import Mathlib.Data.List.Basic
import NumScript.File.Tree

/-!
# What writing a file changes

A write changes the bytes of one file and nothing else. In particular it makes no directory, so every
path leads to the same place before and after it, and what was written is read back under the same
path (`read_write`).

Where a path leads is said once, without the errors (`Leads`): it depends on the directories of the
tree and not on its files. That a tree has the same directories as another one, and the same bytes
everywhere but at some locations, is `Keeps`; writes keep everything but the location that they lead
to (`keeps_write`), and so do several of them (`Keeps.trans`).
-/

namespace NumScript

namespace FileTree

/-! ## 1. Where a path leads -/

/-- Whether a name is that of a file or a directory, and not a step that stays or goes up. -/
def IsProper (name : String) : Prop := ¬ (name = "" ∨ name = ".") ∧ name ≠ ".."

/-- The names of a path lead from one location to another. -/
inductive Leads (tree : FileTree) : Location → List String → Location → Prop
  | here {location : Location} : Leads tree location [] location
  | stay {here there : Location} {name : String} {rest : List String} (same : name = "" ∨ name = ".")
      (onward : Leads tree here rest there) : Leads tree here (name :: rest) there
  | up {here there : Location} {rest : List String} (onward : Leads tree here.parent rest there) :
      Leads tree here (".." :: rest) there
  | last {here : Location} {name : String} (proper : IsProper name)
      (short : name.utf8ByteSize ≤ nameLimit) : Leads tree here [name] (here ++ [name])
  | down {here there : Location} {name : String} {rest : List String} (proper : IsProper name)
      (short : name.utf8ByteSize ≤ nameLimit) (more : rest ≠ [])
      (directory : tree.isDirectory (here ++ [name]) = true)
      (onward : Leads tree (here ++ [name]) rest there) : Leads tree here (name :: rest) there

section Leading

variable {tree : FileTree} {here there : Location}

theorem leads_of_follow {names : List String} (h : tree.follow here names = .ok there) :
    tree.Leads here names there := by
  fun_induction follow tree here names with
  | case1 here =>
    cases h
    exact .here
  | case2 here name rest same ih => exact .stay same (ih h)
  | case3 here rest _ ih => exact .up (ih h)
  | case4 => cases h
  | case5 here name rest proper up short _ only =>
    have reached : here ++ [name] = there := Except.ok.inj h
    obtain rfl := List.isEmpty_iff.mp only
    rw [← reached]
    exact .last ⟨proper, up⟩ (Nat.le_of_not_lt short)
  | case6 here name rest proper up short there more directory ih =>
    refine .down ⟨proper, up⟩ (Nat.le_of_not_lt short) ?_ directory (ih h)
    rintro rfl
    exact more rfl
  | case7 => cases h
  | case8 => cases h

theorem Leads.follow {names : List String} (h : tree.Leads here names there) :
    tree.follow here names = .ok there := by
  induction h with
  | here => rfl
  | stay same onward ih => rw [FileTree.follow, if_pos same, ih]
  | up onward ih => rw [FileTree.follow, if_neg (by decide), if_pos rfl, ih]
  | last proper short =>
    rw [FileTree.follow, if_neg proper.1, if_neg proper.2, if_neg (Nat.not_lt.mpr short)]
    rfl
  | down proper short more directory onward ih =>
    have nonempty : ¬ List.isEmpty _ = true := fun empty => more (List.isEmpty_iff.mp empty)
    rw [FileTree.follow, if_neg proper.1, if_neg proper.2, if_neg (Nat.not_lt.mpr short)]
    simp only [if_neg nonempty, if_pos directory, ih]

/-- **Following a path is going where it leads.** -/
theorem follow_eq_ok {names : List String} :
    tree.follow here names = .ok there ↔ tree.Leads here names there :=
  ⟨leads_of_follow, Leads.follow⟩

theorem locate_eq_ok {path : String} {location : Location} : tree.locate path = .ok location ↔
    ∃ names, checkedNames path = .ok names ∧ tree.Leads [] names location := by
  unfold locate
  cases checkedNames path with
  | error error => simp [bind, Except.bind]
  | ok names => simp [bind, Except.bind, follow_eq_ok]

/-- A path can be written to where it leads, unless it ends in slashes. -/
theorem locateForWriting_eq_ok {path : String} {location : Location} :
    tree.locateForWriting path = .ok location ↔
      ∃ names, checkedNames path = .ok names ∧ names.getLast? ≠ some "" ∧
        tree.Leads [] names location := by
  unfold locateForWriting
  cases checkedNames path with
  | error error => simp [bind, Except.bind]
  | ok names =>
    simp only [bind, Except.bind, Except.ok.injEq, exists_eq_left']
    split
    · rename_i slashes
      simp only [slashes, ne_eq, not_true_eq_false, false_and, iff_false]
      split
      · exact nofun
      · exact nofun
    · rename_i slashes
      rw [follow_eq_ok]
      exact (and_iff_right slashes).symm

/-- Where names lead depends only on which locations are directories. -/
theorem Leads.congr {after : FileTree} {names : List String}
    (same : ∀ location, after.isDirectory location = tree.isDirectory location)
    (h : tree.Leads here names there) : after.Leads here names there := by
  induction h with
  | here => exact .here
  | stay stays onward ih => exact .stay stays ih
  | up onward ih => exact .up ih
  | last proper short => exact .last proper short
  | down proper short more directory onward ih =>
    exact .down proper short more ((same _).trans directory) ih

end Leading

/-! ## 2. Directories -/

/-- A location that begins another one which is a directory is a directory too. -/
theorem isDirectory_of_prefix {tree : FileTree} {location inner : Location}
    (h : tree.isDirectory inner = true) (begins : location <+: inner) :
    tree.isDirectory location = true := by
  unfold isDirectory at h ⊢
  rw [Bool.or_eq_true] at h ⊢
  rcases h with above | below
  · left
    obtain ⟨rest, rfl⟩ := begins
    rw [Location.holdsRoot, List.all_append, Bool.and_eq_true] at above
    exact above.1
  · right
    obtain ⟨file, mem, within⟩ := List.any_eq_true.mp below
    rw [Bool.and_eq_true, List.isPrefixOf_iff_prefix, decide_eq_true_eq] at within
    refine List.any_eq_true.mpr ⟨file, mem, ?_⟩
    rw [Bool.and_eq_true, List.isPrefixOf_iff_prefix, decide_eq_true_eq]
    exact ⟨begins.trans within.1, Nat.lt_of_le_of_lt begins.length_le within.2⟩

theorem isDirectory_parent {tree : FileTree} {location : Location}
    (h : tree.isDirectory location = true) : tree.isDirectory location.parent = true := by
  unfold Location.parent
  split
  · rename_i above
    unfold isDirectory
    rw [Location.holdsRoot, List.all_cons, ← Location.holdsRoot, above]
    rfl
  · exact isDirectory_of_prefix h (List.dropLast_prefix _)

/-- **A path ends at a directory, or at a name in a directory.** -/
theorem Leads.ends {tree : FileTree} {here there : Location} {names : List String}
    (h : tree.Leads here names there) (directory : tree.isDirectory here = true) :
    tree.isDirectory there = true ∨
      ∃ around name, there = around ++ [name] ∧ tree.isDirectory around = true := by
  induction h with
  | here => exact .inl directory
  | stay same onward ih => exact ih directory
  | up onward ih => exact ih (isDirectory_parent directory)
  | last proper short => exact .inr ⟨_, _, rfl, directory⟩
  | down proper short more inner onward ih => exact ih inner

theorem isDirectory_root (tree : FileTree) : tree.isDirectory [] = true := rfl

/-- **A file that is put into a directory makes no directory.** -/
theorem isDirectory_put {tree : FileTree} {around : Location} {name : String} {bytes : ByteArray}
    (directory : tree.isDirectory around = true) (location : Location) :
    (tree.put (around ++ [name]) bytes).isDirectory location = tree.isDirectory location := by
  unfold put
  split
  · -- the file was there, and only its bytes are new
    unfold isDirectory
    rw [List.any_map]
    congr 2
    funext file
    by_cases here : file.1 = around ++ [name]
    · simp [here]
    · simp [here]
  · rw [Bool.eq_iff_iff]
    constructor
    · intro found
      unfold isDirectory at found
      rw [List.any_append, ← Bool.or_assoc, Bool.or_eq_true] at found
      rcases found with found | found
      · exact found
      · rw [List.any_cons, List.any_nil, Bool.or_false, Bool.and_eq_true,
          List.isPrefixOf_iff_prefix, decide_eq_true_eq] at found
        obtain ⟨begins, shorter⟩ := found
        rcases List.prefix_concat_iff.mp begins with same | within
        · rw [same] at shorter
          exact absurd shorter (Nat.lt_irrefl _)
        · exact isDirectory_of_prefix directory within
    · intro found
      unfold isDirectory at found ⊢
      rw [List.any_append, ← Bool.or_assoc, Bool.or_eq_true]
      exact .inl found

/-! ## 3. Trees that agree -/

/-- The bytes of the file that a path leads to. -/
def bytesAt? (tree : FileTree) (path : String) : Option ByteArray :=
  (tree.locate path).toOption.bind tree.content?

/-- Two paths lead to one place. -/
def SameFile (tree : FileTree) (first second : String) : Prop :=
  ∃ location, tree.locate first = .ok location ∧ tree.locate second = .ok location

/-- A tree has the directories of an earlier one, and the same bytes at all but some locations. -/
structure Keeps (touched : Location → Prop) (tree after : FileTree) : Prop where
  /-- The directories are the same. -/
  directories : ∀ location, after.isDirectory location = tree.isDirectory location
  /-- The bytes are the same where nothing was touched. -/
  content : ∀ location, ¬ touched location → after.content? location = tree.content? location

namespace Keeps

variable {touched : Location → Prop} {tree after last : FileTree}

theorem refl : Keeps touched tree tree := ⟨fun _ => rfl, fun _ _ => rfl⟩

theorem trans (h : Keeps touched tree after) (h' : Keeps touched after last) :
    Keeps touched tree last where
  directories location := (h'.directories location).trans (h.directories location)
  content location untouched :=
    (h'.content location untouched).trans (h.content location untouched)

theorem mono {wider : Location → Prop} (h : Keeps touched tree after)
    (within : ∀ location, touched location → wider location) : Keeps wider tree after where
  directories := h.directories
  content location untouched := h.content location fun was => untouched (within location was)

theorem leads (h : Keeps touched tree after) {here there : Location} {names : List String} :
    after.Leads here names there ↔ tree.Leads here names there :=
  ⟨Leads.congr fun location => (h.directories location).symm, Leads.congr h.directories⟩

/-- Paths lead to the same places. -/
theorem locate (h : Keeps touched tree after) {path : String} {location : Location} :
    after.locate path = .ok location ↔ tree.locate path = .ok location := by
  simp only [locate_eq_ok, h.leads]

/-- A path that leads to no touched location leads to the same bytes. -/
theorem bytesAt? (h : Keeps touched tree after) {path : String}
    (untouched : ∀ location, tree.locate path = .ok location → ¬ touched location) :
    after.bytesAt? path = tree.bytesAt? path := by
  unfold FileTree.bytesAt?
  cases found : tree.locate path with
  | ok location =>
    rw [h.locate.mpr found]
    exact h.content location (untouched location found)
  | error error =>
    cases found' : after.locate path with
    | error error' => rfl
    | ok location =>
      rw [h.locate.mp found'] at found
      cases found

end Keeps

/-! ## 4. Writing -/

section Writing

variable {tree after : FileTree} {path text : String}

/-- A write succeeds where a path leads to no directory, and puts the text there. -/
theorem write_eq_ok : tree.write path text = .ok after ↔
    ∃ location, tree.locateForWriting path = .ok location ∧ tree.isDirectory location = false ∧
      after = tree.put location text.toUTF8 := by
  unfold write
  cases tree.locateForWriting path with
  | error error => simp [bind, Except.bind]
  | ok location =>
    simp only [bind, Except.bind, Except.ok.injEq]
    split
    · rename_i directory
      simp [directory, throw, throwThe, MonadExceptOf.throw]
    · rename_i free
      simp [free, pure, Except.pure, eq_comm]

/-- Whether a write succeeds does not depend on the text. -/
theorem exists_write {location : Location} (found : tree.locateForWriting path = .ok location)
    (free : tree.isDirectory location = false) (text : String) :
    ∃ after, tree.write path text = .ok after :=
  ⟨_, write_eq_ok.mpr ⟨location, found, free, rfl⟩⟩

/-- Where the text of a write ends up. -/
theorem locate_of_write (h : tree.write path text = .ok after) :
    ∃ location, tree.locate path = .ok location ∧ tree.isDirectory location = false ∧
      after = tree.put location text.toUTF8 := by
  obtain ⟨location, found, free, rfl⟩ := write_eq_ok.mp h
  obtain ⟨names, checked, _, leads⟩ := locateForWriting_eq_ok.mp found
  exact ⟨location, locate_eq_ok.mpr ⟨names, checked, leads⟩, free, rfl⟩

/-- **A write touches only the location that its path leads to.** -/
theorem keeps_write (h : tree.write path text = .ok after) :
    Keeps (fun location => tree.locate path = .ok location) tree after := by
  obtain ⟨location, found, free, rfl⟩ := locate_of_write h
  obtain ⟨names, _, leads⟩ := locate_eq_ok.mp found
  rcases leads.ends tree.isDirectory_root with directory | ⟨around, name, rfl, directory⟩
  · rw [directory] at free
    cases free
  · refine ⟨isDirectory_put directory, fun other untouched => ?_⟩
    rw [content?_put, if_neg]
    rintro rfl
    exact untouched found

theorem content?_write {location : Location} (h : tree.write path text = .ok after)
    (found : tree.locate path = .ok location) : after.content? location = some text.toUTF8 := by
  obtain ⟨place, found', _, rfl⟩ := locate_of_write h
  cases found.symm.trans found'
  exact (content?_put tree location location _).trans (if_pos rfl)

theorem bytesAt?_write (h : tree.write path text = .ok after) :
    after.bytesAt? path = some text.toUTF8 := by
  obtain ⟨location, found, _, _⟩ := locate_of_write h
  rw [bytesAt?, (keeps_write h).locate.mpr found]
  exact content?_write h found

theorem fromUTF8?_toUTF8 (text : String) : String.fromUTF8? text.toUTF8 = some text := by
  rw [String.fromUTF8?, String.toUTF8_eq_toByteArray, dif_pos text.isValidUTF8]
  rfl

theorem read_of_content {location : Location} (found : tree.locate path = .ok location)
    (free : tree.isDirectory location = false)
    (content : tree.content? location = some text.toUTF8) : tree.read path = .ok text := by
  simp only [read, found, bind, Except.bind, free, Bool.false_eq_true, if_false, content,
    fromUTF8?_toUTF8, pure, Except.pure]

/-- What is read lies where the path leads to, and is no directory. -/
theorem locate_of_read (h : tree.read path = .ok text) :
    ∃ location, tree.locate path = .ok location ∧ tree.isDirectory location = false := by
  unfold read at h
  cases found : tree.locate path with
  | error error =>
    rw [found] at h
    cases h
  | ok location =>
    refine ⟨location, rfl, ?_⟩
    by_contra directory
    rw [Bool.not_eq_false] at directory
    simp only [found, bind, Except.bind, directory, if_true] at h
    cases h

/-- **What was written is read back.** -/
theorem read_write (h : tree.write path text = .ok after) : after.read path = .ok text := by
  have keeps := keeps_write h
  obtain ⟨location, found, free, _⟩ := locate_of_write h
  exact read_of_content (keeps.locate.mpr found) ((keeps.directories location).trans free)
    (content?_write h found)

/-- Whether something can be written under a path is the same in trees with the same directories. -/
theorem Keeps.exists_write {touched : Location → Prop} (h : Keeps touched tree after) :
    (∃ last, after.write path text = .ok last) ↔ ∃ last, tree.write path text = .ok last := by
  simp only [write_eq_ok, locateForWriting_eq_ok, h.leads, h.directories]
  constructor
  · rintro ⟨last, location, found, free, rfl⟩
    exact ⟨_, location, found, free, rfl⟩
  · rintro ⟨last, location, found, free, rfl⟩
    exact ⟨_, location, found, free, rfl⟩

end Writing

end FileTree

end NumScript
