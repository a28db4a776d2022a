import Mathlib
import NumScript.Command.Report
import NumScript.Proofs.File.Writing

/-!
# What compiling does to the files

A plan that is carried out touches no file but those that it writes (`Plan.keeps_execute`), and the
plan of `compile` writes two at most: the module and, if that is asked for, the program as a tree. How
far it comes depends on the script, on the target and on whether the files can be written. The ways in
which it can end are told apart once (`Finishes`, `Ends`), and what follows is read off them.

The main statement is `compile_effects`: which files change, when nothing changes at all, what the
module holds when it is announced, and that showing the program, writing it, and tracing the parser
make no difference to the module.
-/

namespace NumScript

/-! ## 1. Plans -/

namespace Plan

/-- Whether a plan may write to a path; that depends on what it reads. -/
def MayWrite (path : String) : Plan → Prop
  | .done => False
  | .fail _ => False
  | .say _ next => next.MayWrite path
  | .warn _ next => next.MayWrite path
  | .read _ next => ∃ text, (next text).MayWrite path
  | .write other _ next => path = other ∨ next.MayWrite path

/-- **Carrying out a plan touches only what its paths lead to.** -/
theorem keeps_execute (plan : Plan) : ∀ tree : FileTree,
    FileTree.Keeps (fun location => ∃ path, plan.MayWrite path ∧ tree.locate path = .ok location)
      tree (plan.execute tree).tree := by
  induction plan with
  | done => exact fun _ => .refl
  | fail error => exact fun _ => .refl
  | say line next ih => exact ih
  | warn line next ih => exact ih
  | read input next ih =>
    intro tree
    rw [execute]
    split
    · rename_i text _
      refine (ih text tree).mono ?_
      rintro location ⟨path, may, leads⟩
      exact ⟨path, ⟨text, may⟩, leads⟩
    · exact .refl
  | write other text next ih =>
    intro tree
    rw [execute]
    split
    · rename_i after written
      have first := FileTree.keeps_write written
      refine (first.mono fun location leads => ⟨other, .inl rfl, leads⟩).trans ((ih after).mono ?_)
      -- a path leads to the same place before and after the write
      rintro location ⟨path, may, leads⟩
      exact ⟨path, .inr may, first.locate.mp leads⟩
    · exact .refl

theorem mayWrite_sayAll {lines : List String} {next : Plan} {path : String} :
    (sayAll lines next).MayWrite path ↔ next.MayWrite path := by
  induction lines with
  | nil => exact Iff.rfl
  | cons line rest ih => exact ih

theorem mayWrite_warnAll {lines : List String} {next : Plan} {path : String} :
    (warnAll lines next).MayWrite path ↔ next.MayWrite path := by
  induction lines with
  | nil => exact Iff.rfl
  | cons line rest ih => exact ih

end Plan

/-! ## 2. Announcements -/

/-- Whether a line says that a module was written. -/
def isAnnouncement (line : String) : Bool := "Compiled to".toList.isPrefixOf line.toList

/-- Whether a line of output says that a module was written. -/
def Report.announces (report : Report) : Bool := report.out.any isAnnouncement

/-- A line is no announcement if its beginning is neither a beginning of one nor the other way
    round. -/
theorem isAnnouncement_append (head rest : String)
    (apart : ¬ ("Compiled to".toList <+: head.toList ∨ head.toList <+: "Compiled to".toList)) :
    isAnnouncement (head ++ rest) = false := by
  rw [isAnnouncement, ← Bool.not_eq_true, List.isPrefixOf_iff_prefix, String.toList_append]
  exact fun begins => apart (List.prefix_or_prefix_of_prefix begins (List.prefix_append _ _))

theorem isAnnouncement_compiled (path : String) :
    isAnnouncement ("Compiled to: " ++ path) = true := by
  rw [isAnnouncement, List.isPrefixOf_iff_prefix, String.toList_append]
  exact List.IsPrefix.trans (by decide) (List.prefix_append _ _)

/-- The program is shown under its own heading. -/
theorem isAnnouncement_inspect (program : Program) :
    isAnnouncement program.data.inspectIndented = false := by
  obtain ⟨rest, shown⟩ : ∃ rest, program.data.inspectIndented = "Program" ++ rest := by
    simp only [Data.inspectIndented, Program.data, Data.inspectLayout, Data.inspectLayouts,
      Layout.indented, String.append_assoc]
    exact ⟨_, rfl⟩
  rw [shown]
  exact isAnnouncement_append _ rest (by decide)

theorem isAnnouncement_compiling (options : CompileOptions) :
    isAnnouncement ("Compiling " ++ options.input ++ " for " ++ options.target ++ "...") = false := by
  rw [String.append_assoc, String.append_assoc, String.append_assoc]
  exact isAnnouncement_append _ _ (by decide)

/-- The lines that show the program announce nothing. -/
theorem any_isAnnouncement_shown (wanted : Bool) (program : Program) :
    (if wanted then ["=== AST ===", program.data.inspectIndented] else []).any isAnnouncement =
      false := by
  cases wanted with
  | false => rfl
  | true =>
    have heading : isAnnouncement "=== AST ===" = false := by decide
    simp [heading, isAnnouncement_inspect]

/-- Two reports that differ at most in what they say, and not in whether they announce a module. -/
structure Report.Agrees (report other : Report) : Prop where
  /-- They have the same code. -/
  code : report.code = other.code
  /-- They have the same files. -/
  tree : report.tree = other.tree
  /-- Both announce a module or neither does. -/
  announces : report.announces = other.announces

theorem Report.Agrees.trans {report other last : Report} (h : report.Agrees other)
    (h' : other.Agrees last) : report.Agrees last :=
  ⟨h.code.trans h'.code, h.tree.trans h'.tree, h.announces.trans h'.announces⟩

namespace Plan

variable {tree : FileTree} {next : Plan}

theorem agrees_say {line : String} (silent : isAnnouncement line = false) :
    ((Plan.say line next).execute tree).Agrees (next.execute tree) := by
  refine ⟨rfl, rfl, ?_⟩
  rw [Report.announces, execute, List.any_cons, silent, Bool.false_or, Report.announces]

theorem agrees_sayAll : ∀ {lines : List String}, lines.any isAnnouncement = false →
    ((sayAll lines next).execute tree).Agrees (next.execute tree)
  | [], _ => ⟨rfl, rfl, rfl⟩
  | line :: rest, silent => by
    rw [List.any_cons, Bool.or_eq_false_iff] at silent
    have first : ((sayAll (line :: rest) next).execute tree).Agrees _ := agrees_say silent.1
    exact first.trans (agrees_sayAll silent.2)

theorem agrees_warnAll : ∀ lines : List String,
    ((warnAll lines next).execute tree).Agrees (next.execute tree)
  | [] => ⟨rfl, rfl, rfl⟩
  | line :: rest => by
    have others := agrees_warnAll rest
    exact ⟨others.code, others.tree, others.announces⟩

end Plan

/-! ## 3. How compiling ends -/

namespace CompileOptions

/-- The path of the module. -/
def modulePath (options : CompileOptions) : String :=
  options.output.getD (Path.besides "wat" options.input)

/-- The path of the program as a tree. -/
def treePath (options : CompileOptions) : String := Path.besides "ast.json" options.input

/-- What carrying out the command leaves behind. -/
def report (options : CompileOptions) (tree : FileTree) : Report :=
  (Command.compile options).plan.execute tree

/-- The files after the program was written, if that is asked for. -/
def keepTree (options : CompileOptions) (tree : FileTree) (program : Program) :
    Except FileError FileTree :=
  if options.emitTree then tree.write options.treePath program.data.jsonIndented else .ok tree

end CompileOptions

/-- A path leads to a text that is a program. -/
def FileTree.Says (tree : FileTree) (path : String) (program : Program) : Prop :=
  ∃ source, tree.read path = .ok source ∧ parse source = .ok program

/-- How `compile` ends when the program is there and `kept` are the files. -/
inductive Finishes (options : CompileOptions) (program : Program) (kept : FileTree)
    (report : Report) : Prop
  | unknownTarget (unknown : Target.ofName? options.target = none) (code : report.code = 0)
      (files : report.tree = kept) (silent : report.announces = false)
  | refused {target : Target} {error : LowerError}
      (known : Target.ofName? options.target = some target)
      (refused : compileProgram target.width program = .error error) (code : report.code = 1)
      (files : report.tree = kept) (silent : report.announces = false)
  | unwritten {target : Target} {text : String} {error : FileError}
      (known : Target.ofName? options.target = some target)
      (compiled : compileProgram target.width program = .ok text)
      (failed : kept.write options.modulePath text = .error error) (code : report.code = 1)
      (files : report.tree = kept) (silent : report.announces = false)
  | written {target : Target} {text : String}
      (known : Target.ofName? options.target = some target)
      (compiled : compileProgram target.width program = .ok text)
      (written : kept.write options.modulePath text = .ok report.tree) (code : report.code = 0)
      (announced : report.announces = true)

/-- How `compile` ends. -/
inductive Ends (options : CompileOptions) (tree : FileTree) (report : Report) : Prop
  | noProgram (unsaid : ∀ program, ¬ tree.Says options.input program) (code : report.code = 1)
      (files : report.tree = tree) (silent : report.announces = false)
  | treeUnwritten {program : Program} {error : FileError} (said : tree.Says options.input program)
      (failed : options.keepTree tree program = .error error) (code : report.code = 1)
      (files : report.tree = tree) (silent : report.announces = false)
  | finished {program : Program} {kept : FileTree} (said : tree.Says options.input program)
      (keeps : options.keepTree tree program = .ok kept)
      (last : report.Agrees ((finishCompile options program).execute kept))

theorem finishes_finishCompile (options : CompileOptions) (program : Program) (kept : FileTree) :
    Finishes options program kept ((finishCompile options program).execute kept) := by
  unfold finishCompile
  cases known : Target.ofName? options.target with
  | none => exact .unknownTarget known rfl rfl rfl
  | some target =>
    cases compiled : compileProgram target.width program with
    | error error =>
      simp only [compiled]
      exact .refused known compiled rfl rfl rfl
    | ok text =>
      have path : options.output.getD (Path.besides "wat" options.input) = options.modulePath := rfl
      simp only [compiled, path, Plan.execute]
      cases written : kept.write options.modulePath text with
      | error error => exact .unwritten known compiled written rfl rfl rfl
      | ok after =>
        refine .written known compiled written rfl ?_
        rw [Report.announces, List.any_cons, isAnnouncement_compiled, Bool.true_or]

theorem Finishes.congr {options : CompileOptions} {program : Program} {kept : FileTree}
    {report other : Report} (h : Finishes options program kept other)
    (agrees : report.Agrees other) : Finishes options program kept report := by
  obtain ⟨sameCode, sameTree, same⟩ := agrees
  cases h with
  | unknownTarget unknown code files silent =>
    exact .unknownTarget unknown (sameCode.trans code) (sameTree.trans files) (same.trans silent)
  | refused known refused code files silent =>
    exact .refused known refused (sameCode.trans code) (sameTree.trans files) (same.trans silent)
  | unwritten known compiled failed code files silent =>
    exact .unwritten known compiled failed (sameCode.trans code) (sameTree.trans files)
      (same.trans silent)
  | written known compiled written code announced =>
    rw [← sameTree] at written
    exact .written known compiled written (sameCode.trans code) (same.trans announced)

theorem Ends.congr {options : CompileOptions} {tree : FileTree} {report other : Report}
    (h : Ends options tree other) (agrees : report.Agrees other) : Ends options tree report := by
  cases h with
  | noProgram unsaid code files silent =>
    exact .noProgram unsaid (agrees.code.trans code) (agrees.tree.trans files)
      (agrees.announces.trans silent)
  | treeUnwritten said failed code files silent =>
    exact .treeUnwritten said failed (agrees.code.trans code) (agrees.tree.trans files)
      (agrees.announces.trans silent)
  | finished said keeps last => exact .finished said keeps (agrees.trans last)

theorem FileTree.Says.unique {tree : FileTree} {path : String} {program other : Program}
    (h : tree.Says path program) (h' : tree.Says path other) : program = other := by
  obtain ⟨source, read, parsed⟩ := h
  obtain ⟨source', read', parsed'⟩ := h'
  cases read.symm.trans read'
  exact Except.ok.inj (parsed.symm.trans parsed')

/-- **Compiling ends in one of these ways.** -/
theorem ends_report (options : CompileOptions) (tree : FileTree) :
    Ends options tree (options.report tree) := by
  refine Ends.congr ?_ (Plan.agrees_say (isAnnouncement_compiling options))
  rw [Plan.execute]
  cases read : tree.read options.input with
  | error error =>
    refine .noProgram ?_ rfl rfl rfl
    rintro program ⟨source, read', _⟩
    cases read.symm.trans read'
  | ok source =>
    refine Ends.congr ?_ (Plan.agrees_warnAll _)
    cases parsed : parse source with
    | error error =>
      refine .noProgram ?_ rfl rfl rfl
      rintro program ⟨source', read', parsed'⟩
      cases read.symm.trans read'
      cases parsed.symm.trans parsed'
    | ok program =>
      have said : tree.Says options.input program := ⟨source, read, parsed⟩
      refine Ends.congr ?_ (Plan.agrees_sayAll (any_isAnnouncement_shown options.showTree program))
      cases emit : options.emitTree with
      | false =>
        refine .finished said ?_ ⟨rfl, rfl, rfl⟩
        rw [CompileOptions.keepTree, emit, if_neg Bool.false_ne_true]
      | true =>
        have keeps : options.keepTree tree program =
            tree.write options.treePath program.data.jsonIndented := by
          rw [CompileOptions.keepTree, emit, if_pos rfl]
        have told := isAnnouncement_append "AST written to: " options.treePath (by decide)
        rw [if_pos rfl, Plan.execute, ← CompileOptions.treePath]
        cases written : tree.write options.treePath program.data.jsonIndented with
        | error error => exact .treeUnwritten said (keeps.trans written) rfl rfl rfl
        | ok kept =>
          exact .finished said (keeps.trans written) (Plan.agrees_say told)

/-- Without a program nothing is done. -/
theorem report_of_unsaid {options : CompileOptions} {tree : FileTree}
    (unsaid : ∀ program, ¬ tree.Says options.input program) :
    (options.report tree).code = 1 ∧ (options.report tree).tree = tree ∧
      (options.report tree).announces = false := by
  cases ends_report options tree with
  | noProgram _ code files silent => exact ⟨code, files, silent⟩
  | treeUnwritten said => exact absurd said (unsaid _)
  | finished said => exact absurd said (unsaid _)

/-! ## 4. Which files change -/

section Files

variable {options : CompileOptions} {program : Program} {tree kept : FileTree}

theorem mayWrite_finishCompile {path : String} (h : (finishCompile options program).MayWrite path) :
    path = options.modulePath := by
  unfold finishCompile at h
  split at h
  · exact h.elim
  · split at h
    · exact h.elim
    · rcases h with same | later
      · exact same
      · exact later.elim

/-- Compiling writes the module and, if that is asked for, the program. -/
theorem mayWrite_compilePlan {path : String} (h : (compilePlan options).MayWrite path) :
    path = options.modulePath ∨ (options.emitTree = true ∧ path = options.treePath) := by
  obtain ⟨source, h⟩ := h
  rw [Plan.mayWrite_warnAll] at h
  split at h
  · exact h.elim
  · rw [Plan.mayWrite_sayAll] at h
    split at h
    · rename_i emit
      rcases h with same | later
      · exact .inr ⟨emit, same⟩
      · exact .inl (mayWrite_finishCompile later)
    · exact .inl (mayWrite_finishCompile h)

theorem keeps_keepTree (h : options.keepTree tree program = .ok kept) :
    FileTree.Keeps
      (fun location => options.emitTree = true ∧ tree.locate options.treePath = .ok location)
      tree kept := by
  unfold CompileOptions.keepTree at h
  split at h
  · rename_i emit
    exact (FileTree.keeps_write h).mono fun location leads => ⟨emit, leads⟩
  · cases h
    exact .refl

/-- The program, if it is written, is written to the module's path or leaves that alone. -/
theorem bytesAt?_keepTree (h : options.keepTree tree program = .ok kept) :
    kept.bytesAt? options.modulePath = tree.bytesAt? options.modulePath ∨
      (options.emitTree = true ∧ tree.SameFile options.treePath options.modulePath ∧
        kept.bytesAt? options.modulePath = some program.data.jsonIndented.toUTF8) := by
  by_cases same : options.emitTree = true ∧ tree.SameFile options.treePath options.modulePath
  · right
    obtain ⟨emit, location, leads, leads'⟩ := same
    rw [CompileOptions.keepTree, if_pos emit] at h
    have keeps := FileTree.keeps_write h
    have bytes := FileTree.bytesAt?_write h
    rw [FileTree.bytesAt?, keeps.locate.mpr leads] at bytes
    refine ⟨emit, ⟨location, leads, leads'⟩, ?_⟩
    rw [FileTree.bytesAt?, keeps.locate.mpr leads']
    exact bytes
  · left
    refine (keeps_keepTree h).bytesAt? ?_
    rintro location leads ⟨emit, leads'⟩
    exact same ⟨emit, location, leads', leads⟩

end Files

/-! ## 5. What is shown and traced -/

/-- Two reports that say the same of a module: how it went, whether it is announced, and which bytes
    are there. -/
structure Report.SameModule (path : String) (report other : Report) : Prop where
  /-- They have the same code. -/
  code : report.code = other.code
  /-- Both announce the module or neither does. -/
  announces : report.announces = other.announces
  /-- The path leads to the same bytes. -/
  bytes : report.tree.bytesAt? path = other.tree.bytesAt? path

/-- The program, if it is to be written at all, can be written, and to another file than the
    module. -/
def CompileOptions.KeepsAside (options : CompileOptions) (tree : FileTree) : Prop :=
  options.emitTree = true →
    ¬ tree.SameFile options.treePath options.modulePath ∧
    ∀ program, tree.Says options.input program →
      ∃ kept, tree.write options.treePath program.data.jsonIndented = .ok kept

section Flags

variable {options : CompileOptions} {tree kept : FileTree}

/-- A file that was written beside the module makes no difference to it. -/
theorem sameModule_finishCompile (program : Program) {touched : Location → Prop}
    (keeps : FileTree.Keeps touched tree kept)
    (bytes : kept.bytesAt? options.modulePath = tree.bytesAt? options.modulePath) :
    Report.SameModule options.modulePath ((finishCompile options program).execute kept)
      ((finishCompile options program).execute tree) := by
  unfold finishCompile
  cases Target.ofName? options.target with
  | none => exact ⟨rfl, rfl, bytes⟩
  | some target =>
    cases compiled : compileProgram target.width program with
    | error error =>
      simp only [compiled]
      exact ⟨rfl, rfl, bytes⟩
    | ok text =>
      have path : options.output.getD (Path.besides "wat" options.input) = options.modulePath := rfl
      have writable : (∃ after, kept.write options.modulePath text = .ok after) ↔
          ∃ after, tree.write options.modulePath text = .ok after := keeps.exists_write
      simp only [compiled, path, Plan.execute]
      cases written : kept.write options.modulePath text with
      | ok after =>
        obtain ⟨after', written'⟩ := writable.mp ⟨after, written⟩
        have same := (FileTree.bytesAt?_write written).trans (FileTree.bytesAt?_write written').symm
        simp only [written']
        exact ⟨rfl, rfl, same⟩
      | error error =>
        cases written' : tree.write options.modulePath text with
        | ok after' =>
          obtain ⟨after, impossible⟩ := writable.mpr ⟨after', written'⟩
          cases written.symm.trans impossible
        | error error' => exact ⟨rfl, rfl, bytes⟩

/-- What is said of the module is what the last part of the plan says of it. -/
theorem sameModule_report {program : Program} (aside : options.KeepsAside tree)
    (said : tree.Says options.input program) :
    Report.SameModule options.modulePath (options.report tree)
      ((finishCompile options program).execute tree) := by
  cases ends_report options tree with
  | noProgram unsaid => exact absurd said (unsaid program)
  | treeUnwritten said' failed =>
    unfold CompileOptions.keepTree at failed
    split at failed
    · rename_i emit
      obtain ⟨kept, written⟩ := (aside emit).2 _ said'
      cases failed.symm.trans written
    · cases failed
  | @finished _ kept said' keeps last =>
    cases said.unique said'
    have bytes : kept.bytesAt? options.modulePath = tree.bytesAt? options.modulePath := by
      rcases bytesAt?_keepTree keeps with same | ⟨emit, same, -⟩
      · exact same
      · exact absurd same (aside emit).1
    have finished := sameModule_finishCompile program (keeps_keepTree keeps) bytes
    exact ⟨last.code.trans finished.code, last.announces.trans finished.announces,
      (congrArg (·.bytesAt? options.modulePath) last.tree).trans finished.bytes⟩

/-- **Showing and writing the program and tracing the parser make no difference to the module.** -/
theorem sameModule_flags {showTree emitTree trace : Bool} (aside : options.KeepsAside tree)
    (aside' : CompileOptions.KeepsAside { options with showTree, emitTree, trace } tree) :
    Report.SameModule options.modulePath (options.report tree)
      (CompileOptions.report { options with showTree, emitTree, trace } tree) := by
  by_cases found : ∃ program, tree.Says options.input program
  · obtain ⟨program, said⟩ := found
    have first := sameModule_report aside said
    have second := sameModule_report aside' said
    exact ⟨first.code.trans second.code.symm, first.announces.trans second.announces.symm,
      first.bytes.trans second.bytes.symm⟩
  · obtain ⟨code, files, silent⟩ := report_of_unsaid fun program said => found ⟨program, said⟩
    obtain ⟨code', files', silent'⟩ := @report_of_unsaid { options with showTree, emitTree, trace }
      tree fun program said => found ⟨program, said⟩
    exact ⟨code.trans code'.symm, silent.trans silent'.symm, by rw [files, files']⟩

end Flags

/-! ## 6. The effects of compiling -/

/-- What a report of `compile` says of the files. -/
structure CompileEffects (options : CompileOptions) (tree : FileTree) (report : Report) : Prop where
  /-- Where the input is not the text of a program, no file changes and the code is one. -/
  noProgram : (∀ program, ¬ tree.Says options.input program) →
    report.code = 1 ∧ report.tree = tree
  /-- No file changes but the module and, if that is asked for, the program. -/
  touched : ∀ location, report.tree.content? location ≠ tree.content? location →
    tree.locate options.modulePath = .ok location ∨
      (options.emitTree = true ∧ tree.locate options.treePath = .ok location)
  /-- The module is announced exactly if there is a program, it was written if that is asked for, the
      target is known, the program can be lowered, and the module was written. -/
  announced_iff : report.announces = true ↔ ∃ program kept target text after,
    tree.Says options.input program ∧ options.keepTree tree program = .ok kept ∧
    Target.ofName? options.target = some target ∧
    compileProgram target.width program = .ok text ∧
    kept.write options.modulePath text = .ok after
  /-- If it is not, its path leads to what it led to before, unless the program was written there. -/
  unwritten : report.announces = false →
    report.tree.bytesAt? options.modulePath = tree.bytesAt? options.modulePath ∨
      (options.emitTree = true ∧ tree.SameFile options.treePath options.modulePath ∧
        ∃ program, tree.Says options.input program ∧
          report.tree.bytesAt? options.modulePath = some program.data.jsonIndented.toUTF8)
  /-- If it is, the code is zero, and its path leads to what the script compiles to. -/
  written : report.announces = true → report.code = 0 ∧ ∃ source target text,
    tree.read options.input = .ok source ∧ Target.ofName? options.target = some target ∧
    compile target.width source = .ok text ∧ report.tree.read options.modulePath = .ok text

section Effects

variable {options : CompileOptions} {tree : FileTree}

theorem touched_report {location : Location}
    (changed : (options.report tree).tree.content? location ≠ tree.content? location) :
    tree.locate options.modulePath = .ok location ∨
      (options.emitTree = true ∧ tree.locate options.treePath = .ok location) := by
  have keeps := Plan.keeps_execute (compilePlan options) tree
  by_contra apart
  refine changed (keeps.content location ?_)
  rintro ⟨path, may, leads⟩
  rcases mayWrite_compilePlan may with rfl | ⟨emit, rfl⟩
  · exact apart (.inl leads)
  · exact apart (.inr ⟨emit, leads⟩)

/-- An announced module was written by the last step. -/
theorem written_of_announces (announced : (options.report tree).announces = true) :
    (options.report tree).code = 0 ∧ ∃ program kept target text,
      tree.Says options.input program ∧ options.keepTree tree program = .ok kept ∧
      Target.ofName? options.target = some target ∧
      compileProgram target.width program = .ok text ∧
      kept.write options.modulePath text = .ok (options.report tree).tree := by
  cases ends_report options tree with
  | noProgram _ _ _ silent => cases silent.symm.trans announced
  | treeUnwritten _ _ _ _ silent => cases silent.symm.trans announced
  | finished said keeps last =>
    cases (finishes_finishCompile options _ _).congr last with
    | unknownTarget _ _ _ silent => cases silent.symm.trans announced
    | refused _ _ _ _ silent => cases silent.symm.trans announced
    | unwritten _ _ _ _ _ silent => cases silent.symm.trans announced
    | written known compiled written code _ =>
      exact ⟨code, _, _, _, _, said, keeps, known, compiled, written⟩

/-- Without an announcement the files are those that the program was kept in, or nothing changed. -/
theorem tree_of_silent (silent : (options.report tree).announces = false) :
    (options.report tree).tree = tree ∨ ∃ program kept, tree.Says options.input program ∧
      options.keepTree tree program = .ok kept ∧ (options.report tree).tree = kept := by
  cases ends_report options tree with
  | noProgram _ _ files _ => exact .inl files
  | treeUnwritten _ _ _ files _ => exact .inl files
  | finished said keeps last =>
    refine .inr ⟨_, _, said, keeps, ?_⟩
    cases (finishes_finishCompile options _ _).congr last with
    | unknownTarget _ _ files _ => exact files
    | refused _ _ _ files _ => exact files
    | unwritten _ _ _ _ files _ => exact files
    | written _ _ _ _ announced => cases silent.symm.trans announced

/-- A module that can be written is announced. -/
theorem announces_of_written {program : Program} {kept : FileTree} {target : Target} {text : String}
    {after : FileTree} (said : tree.Says options.input program)
    (keeps : options.keepTree tree program = .ok kept)
    (known : Target.ofName? options.target = some target)
    (compiled : compileProgram target.width program = .ok text)
    (written : kept.write options.modulePath text = .ok after) :
    (options.report tree).announces = true := by
  cases ends_report options tree with
  | noProgram unsaid => exact absurd said (unsaid program)
  | treeUnwritten said' failed =>
    cases said.unique said'
    cases keeps.symm.trans failed
  | finished said' keeps' last =>
    cases said.unique said'
    cases keeps.symm.trans keeps'
    cases (finishes_finishCompile options _ _).congr last with
    | unknownTarget unknown => cases known.symm.trans unknown
    | refused known' refused =>
      cases known.symm.trans known'
      cases compiled.symm.trans refused
    | unwritten known' compiled' failed =>
      cases known.symm.trans known'
      cases compiled.symm.trans compiled'
      cases written.symm.trans failed
    | written _ _ _ _ announced => exact announced

/-- A program is announced if it can be lowered and both files can be written before anything is. -/
theorem announces_of_writable {program : Program} {target : Target} {text : String}
    (said : tree.Says options.input program) (known : Target.ofName? options.target = some target)
    (compiled : compileProgram target.width program = .ok text)
    (treeWritable : options.emitTree = true →
      ∃ kept, tree.write options.treePath program.data.jsonIndented = .ok kept)
    (moduleWritable : ∃ after, tree.write options.modulePath text = .ok after) :
    (options.report tree).announces = true := by
  obtain ⟨kept, keeps⟩ : ∃ kept, options.keepTree tree program = .ok kept := by
    unfold CompileOptions.keepTree
    split
    · rename_i emit
      exact treeWritable emit
    · exact ⟨tree, rfl⟩
  obtain ⟨after, written⟩ := (keeps_keepTree keeps).exists_write.mpr moduleWritable
  exact announces_of_written said keeps known compiled written

theorem compile_of_parse {width : Wat.FloatWidth} {source text : String} {program : Program}
    (parsed : parse source = .ok program) (compiled : compileProgram width program = .ok text) :
    compile width source = .ok text := by
  simp only [compile, parsed, compiled, Except.mapError, bind, Except.bind]

theorem compileEffects_report (options : CompileOptions) (tree : FileTree) :
    CompileEffects options tree (options.report tree) where
  noProgram unsaid := by
    obtain ⟨code, files, _⟩ := report_of_unsaid unsaid
    exact ⟨code, files⟩
  touched _ changed := touched_report changed
  announced_iff := by
    constructor
    · intro announced
      obtain ⟨_, program, kept, target, text, h⟩ := written_of_announces announced
      exact ⟨program, kept, target, text, _, h⟩
    · rintro ⟨program, kept, target, text, after, said, keeps, known, compiled, written⟩
      exact announces_of_written said keeps known compiled written
  unwritten silent := by
    rcases tree_of_silent silent with files | ⟨program, kept, said, keeps, files⟩
    · exact .inl (by rw [files])
    · rw [files]
      rcases bytesAt?_keepTree keeps with same | ⟨emit, same, bytes⟩
      · exact .inl same
      · exact .inr ⟨emit, same, program, said, bytes⟩
  written announced := by
    obtain ⟨code, program, kept, target, text, ⟨source, read, parsed⟩, _, known, compiled, written⟩ :=
      written_of_announces announced
    exact ⟨code, source, target, text, read, known, compile_of_parse parsed compiled,
      FileTree.read_write written⟩

end Effects

/-- **Compiling writes the right files and only those.** For all files and all options: what the
    report says of the files, and that it says the same of the module whether or not the program is
    shown or written and the parser traced. The last part asks that the program, where it is written,
    can be written, and to another file than the module. -/
theorem compile_effects (options : CompileOptions) (tree : FileTree) :
    CompileEffects options tree (options.report tree) ∧
    ∀ showTree emitTree trace : Bool, options.KeepsAside tree →
      CompileOptions.KeepsAside { options with showTree, emitTree, trace } tree →
      Report.SameModule options.modulePath (options.report tree)
        (CompileOptions.report { options with showTree, emitTree, trace } tree) := by
  refine ⟨compileEffects_report options tree, ?_⟩
  intro showTree emitTree trace aside aside'
  exact sameModule_flags aside aside'

/-- The source of a script with one function. -/
def identityScript : String := "export function f(x)\x7breturn x;\x7d"

/-- The program of the script. -/
def identityProgram : Program := ⟨[.exportFunction "f" ["x"] [.returnValue (.var "x")]]⟩

set_option maxRecDepth 8192 in
theorem parse_identityScript : parse identityScript = .ok identityProgram := by cbv

/-- The script is compiled wherever it lies. -/
theorem announces_identity {options : CompileOptions} {tree : FileTree} {place : Location}
    (target : options.target = "wat32") (found : tree.locate options.input = .ok place)
    (free : tree.isDirectory place = false)
    (content : tree.content? place = some identityScript.toUTF8)
    (treeWritable : ∀ text, ∃ kept, tree.write options.treePath text = .ok kept)
    (moduleWritable : ∀ text, ∃ after, tree.write options.modulePath text = .ok after) :
    (options.report tree).announces = true := by
  have read := FileTree.read_of_content found free content
  have known : Target.ofName? options.target = some .wat32 := by rw [target]; rfl
  obtain ⟨text, compiled⟩ : ∃ text, compileProgram .f32 identityProgram = .ok text := ⟨_, rfl⟩
  exact announces_of_writable ⟨_, read, parse_identityScript⟩ known compiled
    (fun _ => treeWritable _) (moduleWritable text)

/-- The script next to an older module. -/
def identityTree : FileTree := ⟨[(["a.js"], identityScript.toUTF8), (["a.wat"], "old".toUTF8)]⟩

/-- Everything is asked for that can be. -/
def identityOptions : CompileOptions :=
  { input := "a.js", showTree := true, emitTree := true, trace := true }

theorem announces_identityTree : (identityOptions.report identityTree).announces = true := by
  have toScript : identityTree.locate "a.js" = .ok ["a.js"] := rfl
  have toTree : identityTree.locateForWriting "a.ast.json" = .ok ["a.ast.json"] := rfl
  have toModule : identityTree.locateForWriting "a.wat" = .ok ["a.wat"] := rfl
  exact announces_identity rfl toScript rfl rfl (FileTree.exists_write toTree rfl)
    (FileTree.exists_write toModule rfl)

/-- The script is compiled with everything asked for, and the module is what it is with nothing asked
    for; a script that is not there leaves all as it was. -/
theorem compile_effects_identity :
    (identityOptions.report identityTree).code = 0 ∧
    (∃ text, compile .f32 identityScript = .ok text ∧
      (identityOptions.report identityTree).tree.read "a.wat" = .ok text) ∧
    Report.SameModule "a.wat" (identityOptions.report identityTree)
      (CompileOptions.report { input := "a.js" } identityTree) ∧
    (CompileOptions.report { input := "b.js" } identityTree).tree = identityTree := by
  have toScript : identityTree.locate "a.js" = .ok ["a.js"] := rfl
  have toTree : identityTree.locate identityOptions.treePath = .ok ["a.ast.json"] := rfl
  have toModule : identityTree.locate identityOptions.modulePath = .ok ["a.wat"] := rfl
  have toTree' : identityTree.locateForWriting identityOptions.treePath = .ok ["a.ast.json"] := rfl
  have aside : identityOptions.KeepsAside identityTree := by
    intro _
    refine ⟨?_, fun program _ => FileTree.exists_write toTree' rfl _⟩
    rintro ⟨location, first, second⟩
    cases toTree.symm.trans first
    exact absurd (Except.ok.inj (toModule.symm.trans second)) (by decide)
  obtain ⟨effects, flags⟩ := compile_effects identityOptions identityTree
  obtain ⟨code, source, target, text, read, known, compiled, content⟩ :=
    effects.written announces_identityTree
  cases (FileTree.read_of_content toScript rfl rfl).symm.trans read
  cases (rfl : Target.ofName? identityOptions.target = some .wat32).symm.trans known
  refine ⟨code, ⟨text, compiled, content⟩, flags false false false aside nofun, ?_⟩
  refine ((compile_effects { input := "b.js" } identityTree).1.noProgram ?_).2
  rintro other ⟨source', absent, _⟩
  cases absent

end NumScript
