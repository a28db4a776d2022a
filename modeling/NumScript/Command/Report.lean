import NumScript.Command
import NumScript.File.Tree

/-!
# Carrying out a plan on a file tree

A plan is carried out here on a file tree that is a value, and what comes out is a value too: the two
streams of text, the exit code and the tree afterwards. What was written before a failure stays.
-/

namespace NumScript

/-- What carrying out a plan leaves behind. -/
structure Report where
  /-- Zero, or one after a failure. -/
  code : Nat
  /-- The lines of output. -/
  out : List String
  /-- The lines of diagnostics. -/
  err : List String
  /-- The files. -/
  tree : FileTree

/-- The last line of diagnostics after a failure. -/
def failureLine (error : CompileError) : String := "Error: " ++ error.data.inspect

/-- Ends with a failure. -/
def Report.failure (tree : FileTree) (error : CompileError) : Report :=
  ⟨1, [], [failureLine error], tree⟩

/-- Carries out a plan on a file tree. -/
def Plan.execute (tree : FileTree) : Plan → Report
  | .done => ⟨0, [], [], tree⟩
  | .fail error => .failure tree error
  | .say line next =>
    let report := next.execute tree
    { report with out := line :: report.out }
  | .warn line next =>
    let report := next.execute tree
    { report with err := line :: report.err }
  | .read path next =>
    match tree.read path with
    | .ok text => (next text).execute tree
    | .error error => .failure tree (.file error)
  | .write path text next =>
    match tree.write path text with
    | .ok after => next.execute after
    | .error error => .failure tree (.file error)

/-- The text of a stream: each line and a line break. -/
def streamText (lines : List String) : String := String.join (lines.map (· ++ "\n"))

end NumScript
