import NumScript.File.Path
import NumScript.Proofs.File.Writing

/-!
# Files that are named after others

The path next to an input file is made of its text: the extension of the last name is taken away, and
then another one is put in its place (`Path.besides`). What the second step takes away is what stands
behind the last point of the stem, if the stem has such a point. So the new name is the STEM OF THE
STEM with the new extension, and not the stem, and this is the same only for stems without a point of
their own.

The main statement, `locate_besides`, is about the files and not about the texts of the paths: where
an input lies in a directory under some name, the path next to it leads, if it leads to a file at all,
to this name in the same directory.
-/

namespace NumScript

namespace Path

/-! ## 1. Stems -/

/-- The stem of a name is what stands before its last point; a name without a point, or with none but
    at its beginning, is its own stem. -/
def IsStem (stem name : String) : Prop :=
  (∃ extension : String, stem ≠ "" ∧ '.' ∉ extension.toList ∧ name = stem ++ "." ++ extension) ∨
    (stem = name ∧ '.' ∉ name.toList.tail)

theorem splitAtLast_append {mark : Char} {after : List Char} (absent : mark ∉ after) :
    ∀ before : List Char, splitAtLast mark (before ++ mark :: after) = some (before, after)
  | [] => by
    rw [List.nil_append, splitAtLast, (splitAtLast_eq_none_iff mark after).mpr absent]
    exact if_pos rfl
  | c :: before => by
    rw [List.cons_append, splitAtLast, splitAtLast_append absent before]

/-- The part of a name that is kept when its extension is changed. -/
def stem (name : List Char) : List Char := (splitExtension name).1

theorem splitExtension_append {before after : List Char} (absent : '.' ∉ after)
    (nonempty : before ≠ []) : splitExtension (before ++ '.' :: after) = (before, some after) := by
  rw [splitExtension, splitAtLast_append absent]
  cases before with
  | nil => exact absurd rfl nonempty
  | cons c before => rfl

/-- A name has an extension or is its own stem. -/
theorem splitExtension_cases (name : List Char) :
    (∃ extension, name = stem name ++ '.' :: extension ∧ stem name ≠ [] ∧ '.' ∉ extension ∧
      splitExtension name = (stem name, some extension)) ∨
    (stem name = name ∧ '.' ∉ name.tail ∧ splitExtension name = (name, none)) := by
  unfold stem splitExtension
  split
  · rename_i found
    have absent := (splitAtLast_eq_none_iff _ _).mp found
    exact .inr ⟨rfl, fun mem => absent (List.mem_of_mem_tail mem), rfl⟩
  · rename_i found
    obtain ⟨rfl, absent⟩ := splitAtLast_eq_some found
    exact .inr ⟨rfl, absent, rfl⟩
  · rename_i before extension nonempty found
    obtain ⟨whole, absent⟩ := splitAtLast_eq_some found
    exact .inl ⟨extension, whole, nonempty, absent, rfl⟩

/-- **What is kept is the stem.** -/
theorem stem_eq {name other : String} (h : IsStem other name) : stem name.toList = other.toList := by
  rcases h with ⟨extension, nonempty, absent, rfl⟩ | ⟨rfl, absent⟩
  · have split : (other ++ "." ++ extension).toList = other.toList ++ '.' :: extension.toList := by
      simp
    have nonempty : other.toList ≠ [] := by simpa using nonempty
    rw [stem, split, splitExtension_append absent nonempty]
  · rcases splitExtension_cases other.toList with ⟨extension, whole, nonempty, _, _⟩ | ⟨same, _, _⟩
    · rw [whole, List.tail_append_of_ne_nil nonempty] at absent
      simp at absent
    · exact same

/-- Every name has a stem. -/
theorem exists_isStem (name : String) : ∃ stem, IsStem stem name := by
  obtain ⟨extension, whole, nonempty, absent, _⟩ | ⟨_, absent, _⟩ := splitExtension_cases name.toList
  · refine ⟨String.ofList (stem name.toList), .inl ⟨String.ofList extension, ?_, ?_, ?_⟩⟩
    · simpa [← String.toList_inj] using nonempty
    · simpa using absent
    · rw [← String.toList_inj, whole]
      simp [← whole]
  · exact ⟨name, .inr ⟨rfl, absent⟩⟩

/-- A name is its own stem if it has no point but at its beginning. -/
theorem IsStem.eq_iff {name stem : String} (h : IsStem stem name) :
    stem = name ↔ '.' ∉ name.toList.tail := by
  rcases h with ⟨extension, nonempty, absent, rfl⟩ | ⟨same, absent⟩
  · have nonempty : stem.toList ≠ [] := by simpa using nonempty
    constructor
    · intro same
      have length := congrArg String.length same
      have point : ".".length = 1 := rfl
      rw [String.length_append, String.length_append, point] at length
      omega
    · intro plain
      simp [List.tail_append_of_ne_nil nonempty] at plain
  · exact iff_of_true same absent

theorem stem_ne_nil {name : List Char} (nonempty : name ≠ []) : stem name ≠ [] := by
  rcases splitExtension_cases name with ⟨_, _, nonempty', _⟩ | ⟨same, _⟩
  · exact nonempty'
  · rw [same]
    exact nonempty

/-- Nothing stands in a stem that does not stand in the name. -/
theorem mem_of_mem_stem {name : List Char} {c : Char} (mem : c ∈ stem name) : c ∈ name := by
  rcases splitExtension_cases name with ⟨_, whole, _, _⟩ | ⟨same, _⟩
  · rw [whole]
    exact List.mem_append_left _ mem
  · exact same ▸ mem

/-! ## 2. Changed names -/

theorem isFileName_iff {name : List Char} :
    isFileName name = true ↔ name ≠ [] ∧ name ≠ ['.'] ∧ name ≠ ['.', '.'] := by
  simp [isFileName, and_assoc]

/-- What is put behind a stem. -/
def pointed (extension : List Char) : List Char := if extension = [] then [] else '.' :: extension

/-- A changed name is the stem with the new extension, but for one stem it is `..`. -/
theorem changeName_eq {name : List Char} (file : isFileName name = true) (extension : List Char) :
    changeName extension name =
      if stem name = ['.'] then ['.', '.'] else stem name ++ pointed extension := by
  rw [changeName, if_pos file]
  rcases splitExtension_cases name with ⟨old, _, nonempty, _, split⟩ | ⟨same, _, split⟩
  · rw [split]
    by_cases single : stem name = ['.']
    · rw [if_pos single]
      simp only [single]
      rfl
    · have again : splitExtension (stem name ++ ['.']) = (stem name, some []) :=
        splitExtension_append List.not_mem_nil nonempty
      have file' : isFileName (stem name ++ ['.']) = true := by
        rw [isFileName_iff]
        refine ⟨by simp, fun eq => ?_, fun eq => ?_⟩
        · exact nonempty (List.append_left_injective ['.'] eq)
        · exact single (List.append_left_injective ['.'] eq)
      rw [if_neg single]
      simp only [renameTo, if_pos file', again, pointed]
  · have other : stem name ≠ ['.'] := by
      rw [same]
      exact (isFileName_iff.mp file).2.1
    rw [split, if_neg other, same]
    simp only [renameTo, if_pos file, split, pointed]

/-- **Of a name whose extension is changed twice the stem of the stem is left.** Or nothing is: then
    the result names a directory. -/
theorem changeName_changeName {name extension : List Char} (file : isFileName name = true)
    (nonempty : extension ≠ []) :
    changeName extension (changeName [] name) = ['.', '.'] ∨
      changeName extension (changeName [] name) = stem (stem name) ++ '.' :: extension := by
  have up : changeName extension ['.', '.'] = ['.', '.'] := rfl
  have empty : pointed [] = [] := rfl
  rw [changeName_eq file [], empty, List.append_nil]
  split
  · exact .inl up
  · rename_i other
    by_cases file' : isFileName (stem name) = true
    · rw [changeName_eq file', pointed, if_neg nonempty]
      split
      · exact .inl rfl
      · exact .inr rfl
    · left
      rw [isFileName_iff] at file'
      have parent : stem name = ['.', '.'] := by
        by_contra different
        exact file' ⟨stem_ne_nil (isFileName_iff.mp file).1, other, different⟩
      rw [parent, up]

theorem slash_not_mem_changeName {name : List Char} (file : isFileName name = true)
    (absent : '/' ∉ name) : '/' ∉ changeName [] name := by
  have empty : pointed [] = [] := rfl
  rw [changeName_eq file, empty, List.append_nil]
  split
  · decide
  · exact fun mem => absent (mem_of_mem_stem mem)

/-! ## 3. Paths -/

/-- What can stand before the last name of a path. -/
def IsFront (front : List Char) : Prop := front = [] ∨ ∃ directory, front = directory ++ ['/']

theorem exists_front (path : List Char) :
    ∃ front name, IsFront front ∧ '/' ∉ name ∧ path = front ++ name := by
  cases split : splitAtLast '/' path with
  | none => exact ⟨[], path, .inl rfl, (splitAtLast_eq_none_iff _ _).mp split, rfl⟩
  | some parts =>
    obtain ⟨directory, name⟩ := parts
    obtain ⟨whole, absent⟩ := splitAtLast_eq_some split
    exact ⟨directory ++ ['/'], name, .inr ⟨directory, rfl⟩, absent, by simp [whole]⟩

theorem splitName_append {front name : List Char} (h : IsFront front) (absent : '/' ∉ name) :
    splitName (front ++ name) = (front, name) := by
  rcases h with rfl | ⟨directory, rfl⟩
  · rw [splitName, List.nil_append, (splitAtLast_eq_none_iff _ _).mpr absent]
  · rw [splitName, List.append_assoc, List.singleton_append, splitAtLast_append absent]

theorem withExtension_append {front name : List Char} (h : IsFront front) (absent : '/' ∉ name)
    (extension : String) :
    withExtension extension (String.ofList (front ++ name)) =
      String.ofList (front ++ changeName extension.toList name) := by
  rw [withExtension, String.toList_ofList, splitName_append h absent]

/-- The path next to another one differs from it in the last name only. -/
theorem besides_append {front name : List Char} (h : IsFront front) (absent : '/' ∉ name)
    (file : isFileName name = true) (extension : String) :
    besides extension (String.ofList (front ++ name)) =
      String.ofList (front ++ changeName extension.toList (changeName [] name)) := by
  rw [besides, withExtension_append h absent]
  exact withExtension_append h (slash_not_mem_changeName file absent) extension

end Path

namespace FileTree

open NumScript.Path (IsFront isFileName isFileName_iff)

theorem pieces_ne_nil (text : List Char) : pieces text ≠ [] := by
  cases text with
  | nil => exact nofun
  | cons c rest =>
    rw [pieces]
    split
    · exact nofun
    · split
      · exact nofun
      · exact nofun

theorem pieces_of_not_mem : ∀ {name : List Char}, '/' ∉ name → pieces name = [name]
  | [], _ => rfl
  | c :: rest, absent => by
    rw [List.mem_cons, not_or] at absent
    rw [pieces, pieces_of_not_mem absent.2]
    exact if_neg (Ne.symm absent.1)

theorem pieces_append_slash (after : List Char) : ∀ before : List Char,
    pieces (before ++ '/' :: after) = pieces before ++ pieces after
  | [] => by
    cases others : pieces after with
    | nil => exact absurd others (pieces_ne_nil after)
    | cons first others' =>
      simp only [List.nil_append, pieces, others, if_true, List.cons_append]
  | c :: before => by
    rw [List.cons_append, pieces, pieces, pieces_append_slash after before]
    cases others : pieces before with
    | nil => exact absurd others (pieces_ne_nil before)
    | cons first others =>
      simp only [List.cons_append]
      split
      · rfl
      · rfl

/-- The names of a path, but for the last one, are those of its front. -/
theorem exists_pathNames {front : List Char} (h : IsFront front) : ∃ names : List String,
    ∀ {name : List Char}, '/' ∉ name →
      pathNames (String.ofList (front ++ name)) = names ++ [String.ofList name] := by
  rcases h with rfl | ⟨directory, rfl⟩
  · refine ⟨[], fun absent => ?_⟩
    simp [pathNames, pieces_of_not_mem absent]
  · refine ⟨(pieces directory).map String.ofList, fun absent => ?_⟩
    simp [pathNames, pieces_append_slash, pieces_of_not_mem absent]

/-! ## 4. Names in a directory -/

section Leading

variable {tree : FileTree} {here there : Location}

theorem Leads.unique {names : List String} {other : Location} (h : tree.Leads here names there)
    (h' : tree.Leads here names other) : there = other :=
  Except.ok.inj (h.follow.symm.trans h'.follow)

/-- A path that leads to no directory ends in a name, in the directory that the names before lead
    to. -/
theorem Leads.of_concat {names : List String} {name : String}
    (h : tree.Leads here (names ++ [name]) there) (directory : tree.isDirectory here = true)
    (free : tree.isDirectory there = false) :
    IsProper name ∧ ∃ around, tree.Leads here (names ++ [""]) around ∧ there = around ++ [name] := by
  have atDirectory : ∀ {location : Location}, tree.Leads location [] there →
      tree.isDirectory location = false := by
    rintro location ⟨⟩
    exact free
  induction names generalizing here with
  | nil =>
    cases h with
    | stay same onward => cases directory.symm.trans (atDirectory onward)
    | up onward =>
      cases (isDirectory_parent directory).symm.trans (atDirectory onward)
    | last proper short => exact ⟨proper, here, .stay (.inl rfl) .here, rfl⟩
    | down proper short more => exact absurd rfl more
  | cons first rest ih =>
    rw [List.cons_append] at h
    generalize split : rest ++ [name] = others at h
    cases h with
    | stay same onward =>
      obtain ⟨proper, around, leads, eq⟩ := ih (split ▸ onward) directory
      exact ⟨proper, around, .stay same leads, eq⟩
    | up onward =>
      obtain ⟨proper, around, leads, eq⟩ := ih (split ▸ onward) (isDirectory_parent directory)
      exact ⟨proper, around, .up leads, eq⟩
    | last => exact absurd split (by simp)
    | down proper short _ inner onward =>
      obtain ⟨proper', around, leads, eq⟩ := ih (split ▸ onward) inner
      exact ⟨proper', around, .down proper short (by simp) inner leads, eq⟩

end Leading

theorem isFileName_of_isProper {name : List Char} (h : IsProper (String.ofList name)) :
    isFileName name = true := by
  rw [isFileName_iff]
  refine ⟨?_, ?_, ?_⟩
  · rintro rfl
    exact h.1 (.inl rfl)
  · rintro rfl
    exact h.1 (.inr rfl)
  · rintro rfl
    exact h.2 rfl

/-- The last name of a path that leads to no directory, and the directory that it stands in. -/
theorem of_locate_append {tree : FileTree} {front name : List Char} {location : Location}
    {names : List String}
    (path : pathNames (String.ofList (front ++ name)) = names ++ [String.ofList name])
    (found : tree.locate (String.ofList (front ++ name)) = .ok location)
    (free : tree.isDirectory location = false) :
    isFileName name = true ∧ ∃ around, tree.Leads [] (names ++ [""]) around ∧
      location = around ++ [String.ofList name] := by
  obtain ⟨checked, eq, leads⟩ := locate_eq_ok.mp found
  have same : checked = names ++ [String.ofList name] := by
    unfold checkedNames at eq
    split at eq
    · cases eq
    · split at eq
      · cases eq
      · exact (Except.ok.inj eq).symm.trans path
  rw [same] at leads
  obtain ⟨proper, rest⟩ := leads.of_concat tree.isDirectory_root free
  exact ⟨isFileName_of_isProper proper, rest⟩

/-- **A file that is named after another one lies next to it, under the stem of its stem.** -/
theorem locate_besides {tree : FileTree} {input extension name stem base : String}
    {directory location : Location} (isStem : Path.IsStem stem name) (isBase : Path.IsStem base stem)
    (nonempty : extension ≠ "") (absent : '/' ∉ extension.toList)
    (found : tree.locate input = .ok (directory ++ [name]))
    (free : tree.isDirectory (directory ++ [name]) = false)
    (found' : tree.locate (Path.besides extension input) = .ok location)
    (free' : tree.isDirectory location = false) :
    location = directory ++ [base ++ "." ++ extension] := by
  obtain ⟨front, last, isFront, plain, whole⟩ := Path.exists_front input.toList
  obtain ⟨names, split⟩ := exists_pathNames isFront
  have eq : input = String.ofList (front ++ last) := by rw [← whole, String.ofList_toList]
  rw [eq] at found found'
  obtain ⟨file, around, leads, place⟩ := of_locate_append (split plain) found free
  obtain ⟨rfl, same⟩ := List.append_inj' place rfl
  have last_eq : last = name.toList := by
    rw [List.cons.inj same |>.1, String.toList_ofList]
  have kept : Path.stem (Path.stem last) = base.toList := by
    rw [last_eq, Path.stem_eq isStem, Path.stem_eq isBase]
  have nonempty : extension.toList ≠ [] := by simpa using nonempty
  rw [Path.besides_append isFront plain file] at found'
  rcases Path.changeName_changeName file nonempty with up | renamed
  · -- the path would lead to a directory
    rw [up] at found'
    cases (of_locate_append (split (by decide)) found' free').1
  · have plain' : '/' ∉ Path.stem (Path.stem last) ++ '.' :: extension.toList := by
      intro mem
      rcases List.mem_append.mp mem with mem | mem
      · exact plain (Path.mem_of_mem_stem (Path.mem_of_mem_stem mem))
      · rcases List.mem_cons.mp mem with same | mem
        · exact absurd same (by decide)
        · exact absent mem
    rw [renamed] at found'
    obtain ⟨_, around', leads', place'⟩ := of_locate_append (split plain') found' free'
    obtain rfl := leads.unique leads'
    rw [place', kept]
    simp [String.append_assoc]

end FileTree

end NumScript
