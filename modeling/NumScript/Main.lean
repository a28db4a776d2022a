import NumScript.Command.Arguments
import NumScript.Command.Report

/-!
# The command line

The program itself: it reads the command line and carries out the plan of the command on the files of
the system. It decides nothing that the plan does not say.
-/

namespace NumScript

/-- The file error that an error of the system is. -/
def FileError.ofSystem : IO.Error → FileError
  | .inappropriateType _ code _ => if code = 21 then .isDirectory else .notDirectory
  | .invalidArgument _ code _ => if code = 36 then .nameTooLong else .notFound
  | _ => .notFound

/-- The text of a file of the system. -/
def readText (path : String) : IO (Except FileError String) := do
  try
    let bytes ← IO.FS.readBinFile path
    match String.fromUTF8? bytes with
    | some text => pure (.ok text)
    | none => pure (.error .invalidText)
  catch error => pure (.error (.ofSystem error))

/-- Writes a text to a file of the system. -/
def writeText (path text : String) : IO (Except FileError Unit) := do
  try
    IO.FS.writeFile path text
    pure (.ok ())
  catch error => pure (.error (.ofSystem error))

/-- Ends with a failure. -/
def performFailure (error : CompileError) : IO UInt32 := do
  IO.eprintln (failureLine error)
  pure 1

/-- Carries out a plan on the files of the system. -/
def Plan.perform : Plan → IO UInt32
  | .done => pure 0
  | .fail error => performFailure error
  | .say line next => do
    IO.println line
    next.perform
  | .warn line next => do
    IO.eprintln line
    next.perform
  | .read path next => do
    match ← readText path with
    | .ok text => (next text).perform
    | .error error => performFailure (.file error)
  | .write path text next => do
    match ← writeText path text with
    | .ok () => next.perform
    | .error error => performFailure (.file error)

end NumScript

open NumScript in
/-- Runs the command of the command line. -/
def main (arguments : List String) : IO UInt32 :=
  match Command.ofArguments? arguments with
  | some command => command.plan.perform
  | none => do
    IO.eprintln "usage: compile INPUT [-t TARGET] [-o OUTPUT] [--show-ast] [--emit-ast] [--trace]"
    IO.eprintln "       parse INPUT [--trace]"
    IO.eprintln "       targets"
    pure 2
