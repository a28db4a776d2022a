import NumScript.Proofs.Command.Effects
import NumScript.Proofs.File.Names

/-!
# The names of the files that compiling writes

Where the module is given no name, it lies next to the script, and so does the program as a tree. The
files ought to have the stem of the script as their name. They have it only for a stem without a point
of its own: of every other stem the part behind its last point is taken away as well, and `a.b.js` is
compiled to `a.wat`. Two scripts with different stems can therefore be compiled to the same file, and
the second module takes the place of the first without a word.

`default_names` says for every announced module under which names the files lie, for which stems these
are the intended ones, and which scripts share a file; `default_names_fail` is about the others.
-/

namespace NumScript

/-! ## 1. Runs without a name -/

/-- A run whose module is announced, without a name of its own, for a script of this name in this
    directory. -/
structure DefaultRun (options : CompileOptions) (tree : FileTree) (directory : Location)
    (name : String) : Prop where
  /-- The module is given no name. -/
  unnamed : options.output = none
  /-- The path of the script leads to the name in the directory. -/
  input : tree.locate options.input = .ok (directory ++ [name])
  /-- The module is announced. -/
  announced : (options.report tree).announces = true

/-- Whether compiling writes to a location, if it comes that far. -/
def CompileOptions.WritesAt (options : CompileOptions) (tree : FileTree) (location : Location) :
    Prop :=
  tree.locate options.modulePath = .ok location ∨
    (options.emitTree = true ∧ tree.locate options.treePath = .ok location)

/-- A run writes its files to a directory under the name `base`. -/
structure WritesUnder (options : CompileOptions) (tree : FileTree) (directory : Location)
    (base : String) : Prop where
  /-- It writes nowhere else. -/
  places : ∀ location, options.WritesAt tree location ↔
    location = directory ++ [base ++ ".wat"] ∨
      (options.emitTree = true ∧ location = directory ++ [base ++ ".ast.json"])
  /-- No other file changes. -/
  others : ∀ location, ¬ options.WritesAt tree location →
    (options.report tree).tree.content? location = tree.content? location
  /-- The module is what the script compiles to. -/
  module : ∃ source target text, tree.read options.input = .ok source ∧
    Target.ofName? options.target = some target ∧ compile target.width source = .ok text ∧
    (options.report tree).tree.content? (directory ++ [base ++ ".wat"]) = some text.toUTF8
  /-- The program is there if that is asked for. -/
  program : options.emitTree = true → ∃ program, tree.Says options.input program ∧
    (options.report tree).tree.content? (directory ++ [base ++ ".ast.json"]) =
      some program.data.jsonIndented.toUTF8

theorem place_inj {directory : Location} {base other extension : String} :
    directory ++ [base ++ extension] = directory ++ [other ++ extension] ↔ base = other := by
  rw [List.append_cancel_left_eq, List.singleton_inj, String.append_left_inj]

/-- A module never lies where a program lies. -/
theorem place_ne (directory : Location) (base other : String) :
    directory ++ [base ++ ".wat"] ≠ directory ++ [other ++ ".ast.json"] := by
  intro same
  have name := List.singleton_inj.mp (List.append_cancel_left same)
  have last := congrArg (fun text : String => text.toList.getLast?) name
  simp at last

/-! ## 2. Where the files lie -/

namespace DefaultRun

variable {options : CompileOptions} {tree : FileTree} {directory : Location} {name stem base : String}

theorem modulePath_eq (run : DefaultRun options tree directory name) :
    options.modulePath = Path.besides "wat" options.input := by
  rw [CompileOptions.modulePath, run.unnamed, Option.getD_none]

/-- What can be written next to the script lies in its directory, under the stem of its stem. -/
theorem locate_of_write (run : DefaultRun options tree directory name)
    (isStem : Path.IsStem stem name) (isBase : Path.IsStem base stem) {extension text : String}
    {after : FileTree} (nonempty : extension ≠ "") (absent : '/' ∉ extension.toList)
    (written : tree.write (Path.besides extension options.input) text = .ok after) :
    tree.locate (Path.besides extension options.input) =
      .ok (directory ++ [base ++ "." ++ extension]) := by
  obtain ⟨_, _, _, _, _, ⟨source, read, _⟩, _⟩ := written_of_announces run.announced
  obtain ⟨place, found, free⟩ := FileTree.locate_of_read read
  cases run.input.symm.trans found
  obtain ⟨location, found', free', _⟩ := FileTree.locate_of_write written
  rw [FileTree.locate_besides isStem isBase nonempty absent run.input free found' free'] at found'
  exact found'

theorem locate_modulePath (run : DefaultRun options tree directory name)
    (isStem : Path.IsStem stem name) (isBase : Path.IsStem base stem) :
    tree.locate options.modulePath = .ok (directory ++ [base ++ ".wat"]) := by
  obtain ⟨_, program, kept, target, text, _, keeps, _, _, written⟩ :=
    written_of_announces run.announced
  -- the module is written after the program, and could have been written before it
  obtain ⟨after, written⟩ := (keeps_keepTree keeps).exists_write.mp ⟨_, written⟩
  rw [run.modulePath_eq] at written ⊢
  rw [run.locate_of_write isStem isBase (by decide) (by decide) written, String.append_assoc]
  rfl

theorem locate_treePath (run : DefaultRun options tree directory name)
    (isStem : Path.IsStem stem name) (isBase : Path.IsStem base stem)
    (emit : options.emitTree = true) :
    tree.locate options.treePath = .ok (directory ++ [base ++ ".ast.json"]) := by
  obtain ⟨_, program, kept, _, _, _, keeps, _⟩ := written_of_announces run.announced
  rw [CompileOptions.keepTree, if_pos emit] at keeps
  rw [CompileOptions.treePath] at keeps ⊢
  rw [run.locate_of_write isStem isBase (by decide) (by decide) keeps, String.append_assoc]
  rfl

/-- **The files lie under the stem of the script's stem.** -/
theorem writesUnder (run : DefaultRun options tree directory name)
    (isStem : Path.IsStem stem name) (isBase : Path.IsStem base stem) :
    WritesUnder options tree directory base := by
  have toModule := run.locate_modulePath isStem isBase
  have toTree := run.locate_treePath isStem isBase
  obtain ⟨_, program, kept, target, text, said, keeps, known, compiled, written⟩ :=
    written_of_announces run.announced
  have toModule' := (keeps_keepTree keeps).locate.mpr toModule
  refine ⟨fun location => ?_, fun location apart => ?_, ?_, fun emit => ⟨program, said, ?_⟩⟩
  · rw [CompileOptions.WritesAt, toModule, Except.ok.injEq, @eq_comm _ _ location]
    refine or_congr_right (and_congr_right fun emit => ?_)
    rw [toTree emit, Except.ok.injEq, @eq_comm _ _ location]
  · by_contra changed
    exact apart (touched_report changed)
  · obtain ⟨source, read, parsed⟩ := said
    exact ⟨source, target, text, read, known, compile_of_parse parsed compiled,
      FileTree.content?_write written toModule'⟩
  · rw [CompileOptions.keepTree, if_pos emit] at keeps
    rw [(FileTree.keeps_write written).content _ ?_]
    · exact FileTree.content?_write keeps (toTree emit)
    -- the module has another name
    · intro same
      exact place_ne directory base base (Except.ok.inj (toModule'.symm.trans same))

end DefaultRun

/-- Two runs share a file of a directory exactly if they write under the same name. -/
theorem WritesUnder.shares_iff {options other : CompileOptions} {tree tree' : FileTree}
    {directory : Location} {base base' : String} (h : WritesUnder options tree directory base)
    (h' : WritesUnder other tree' directory base') :
    (∃ location, options.WritesAt tree location ∧ other.WritesAt tree' location) ↔ base = base' := by
  constructor
  · rintro ⟨location, first, second⟩
    rcases (h.places _).mp first with rfl | ⟨_, rfl⟩
    · rcases (h'.places _).mp second with same | ⟨_, same⟩
      · exact place_inj.mp same
      · exact absurd same (place_ne _ _ _)
    · rcases (h'.places _).mp second with same | ⟨_, same⟩
      · exact absurd same.symm (place_ne _ _ _)
      · exact place_inj.mp same
  · rintro rfl
    exact ⟨_, (h.places _).mpr (.inl rfl), (h'.places _).mpr (.inl rfl)⟩

theorem WritesUnder.unique {options : CompileOptions} {tree : FileTree} {directory : Location}
    {base other : String} (h : WritesUnder options tree directory base)
    (h' : WritesUnder options tree directory other) : base = other := by
  have writes := (h.places _).mpr (.inl rfl)
  exact (h.shares_iff h').mp ⟨_, writes, writes⟩

/-! ## 3. The names -/

/-- **The files that are given no name have the stem of the script's stem as their name.** That is the
    stem itself exactly if the stem has no point but at its beginning. And two scripts in a directory
    share a file exactly if the stems of their stems are equal, in whichever trees they are
    compiled. -/
theorem default_names {options : CompileOptions} {tree : FileTree} {directory : Location}
    {name stem : String} (run : DefaultRun options tree directory name)
    (isStem : Path.IsStem stem name) :
    ∃ base, Path.IsStem base stem ∧ WritesUnder options tree directory base ∧
      (WritesUnder options tree directory stem ↔ '.' ∉ stem.toList.tail) ∧
      ∀ other tree' name' stem' base', DefaultRun other tree' directory name' →
        Path.IsStem stem' name' → Path.IsStem base' stem' →
        ((∃ location, options.WritesAt tree location ∧ other.WritesAt tree' location) ↔
          base = base') := by
  obtain ⟨base, isBase⟩ := Path.exists_isStem stem
  have under := run.writesUnder isStem isBase
  refine ⟨base, isBase, under, ?_, ?_⟩
  · rw [← isBase.eq_iff]
    constructor
    · exact under.unique
    · rintro rfl
      exact under
  · intro other tree' name' stem' base' run' isStem' isBase'
    exact under.shares_iff (run'.writesUnder isStem' isBase')

/-- Two scripts in a directory whose stems differ behind a point only. -/
def pointedTree : FileTree :=
  ⟨[(["d", "a.b.js"], identityScript.toUTF8), (["d", "a.c.js"], identityScript.toUTF8)]⟩

theorem defaultRun_pointed {name : String} (mem : name = "a.b.js" ∨ name = "a.c.js") :
    DefaultRun { input := "d/" ++ name } pointedTree ["d"] name := by
  have toTree : pointedTree.locateForWriting "d/a.ast.json" = .ok ["d", "a.ast.json"] := rfl
  have toModule : pointedTree.locateForWriting "d/a.wat" = .ok ["d", "a.wat"] := rfl
  have treeWritable := FileTree.exists_write toTree rfl
  have moduleWritable := FileTree.exists_write toModule rfl
  rcases mem with rfl | rfl
  · have found : pointedTree.locate "d/a.b.js" = .ok ["d", "a.b.js"] := rfl
    exact ⟨rfl, found, announces_identity rfl found rfl rfl treeWritable moduleWritable⟩
  · have found : pointedTree.locate "d/a.c.js" = .ok ["d", "a.c.js"] := rfl
    exact ⟨rfl, found, announces_identity rfl found rfl rfl treeWritable moduleWritable⟩

/-- A script is compiled to files of its stem if the stem has no point, and otherwise it is not. -/
theorem default_names_identity :
    WritesUnder identityOptions identityTree [] "a" ∧
    ¬ WritesUnder { input := "d/a.b.js" } pointedTree ["d"] "a.b" := by
  have run : DefaultRun identityOptions identityTree [] "a.js" :=
    ⟨rfl, rfl, announces_identityTree⟩
  have isStem : Path.IsStem "a" "a.js" := .inl ⟨"js", by decide, by decide, rfl⟩
  have isStem' : Path.IsStem "a.b" "a.b.js" := .inl ⟨"js", by decide, by decide, rfl⟩
  obtain ⟨_, _, _, intended, _⟩ := default_names run isStem
  obtain ⟨_, _, _, intended', _⟩ := default_names (defaultRun_pointed (.inl rfl)) isStem'
  exact ⟨intended.mpr (by decide), fun under => absurd (intended'.mp under) (by decide)⟩

/-- **The names do not follow the stem.** A script is compiled and no module of its stem is there
    afterwards, and two scripts with different stems are compiled to one file. -/
theorem default_names_fail :
    (¬ ∀ options tree directory name stem, DefaultRun options tree directory name →
      Path.IsStem stem name →
      ((options.report tree).tree.content? (directory ++ [stem ++ ".wat"])).isSome = true) ∧
    ¬ ∀ options other tree directory name name' stem stem', DefaultRun options tree directory name →
      DefaultRun other tree directory name' → Path.IsStem stem name → Path.IsStem stem' name' →
      stem ≠ stem' → ¬ tree.SameFile options.modulePath other.modulePath := by
  have first := defaultRun_pointed (.inl rfl)
  have second := defaultRun_pointed (.inr rfl)
  have isStem : Path.IsStem "a.b" "a.b.js" := .inl ⟨"js", by decide, by decide, rfl⟩
  have isStem' : Path.IsStem "a.c" "a.c.js" := .inl ⟨"js", by decide, by decide, rfl⟩
  have isBase : Path.IsStem "a" "a.b" := .inl ⟨"b", by decide, by decide, rfl⟩
  have isBase' : Path.IsStem "a" "a.c" := .inl ⟨"c", by decide, by decide, rfl⟩
  constructor
  · intro intended
    have present := intended _ _ _ _ _ first isStem
    have under := first.writesUnder isStem isBase
    have absent : pointedTree.content? (["d"] ++ ["a.b" ++ ".wat"]) = none := rfl
    rw [under.others, absent] at present
    · cases present
    · intro writes
      exact absurd ((under.places _).mp writes) (by decide)
  · intro intended
    refine intended _ _ _ _ _ _ _ _ first second isStem isStem' (by decide) ?_
    exact ⟨_, first.locate_modulePath isStem isBase, second.locate_modulePath isStem' isBase'⟩

end NumScript
