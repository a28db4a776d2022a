import NumScript.Text.Data

/-!
# Why a file cannot be read or written
-/

namespace NumScript

/-- Why a file could not be read or written. -/
inductive FileError where
  /-- There is no such file, or no such directory on the way to it. -/
  | notFound
  /-- A file stands where a directory should be. -/
  | notDirectory
  /-- A directory stands where a file should be. -/
  | isDirectory
  /-- A name on the way, or the path as a whole, is longer than the system allows. -/
  | nameTooLong
  /-- The bytes of the file are not UTF-8. -/
  | invalidText
deriving DecidableEq

namespace FileError

/-- The number by which the system knows the error, its kind and its description; an error of the
    content has no number. -/
def describe : FileError → Option Nat × String × String
  | .notFound => (some 2, "NotFound", "No such file or directory")
  | .notDirectory => (some 20, "NotADirectory", "Not a directory")
  | .isDirectory => (some 21, "IsADirectory", "Is a directory")
  | .nameTooLong => (some 36, "InvalidFilename", "File name too long")
  | .invalidText => (none, "InvalidData", "stream did not contain valid UTF-8")

/-- The message of an error. -/
def message (error : FileError) : String :=
  match error.describe with
  | (some code, _, text) => text ++ " (os error " ++ toString code ++ ")"
  | (none, _, text) => text

/-- The error as data. -/
def data (error : FileError) : Data :=
  match error.describe with
  | (some code, kind, text) =>
    .choiceRecord "Os"
      [.field "code" (.word (toString code)), .field "kind" (.word kind), .field "message" (.text text)]
  | (none, kind, text) =>
    .choiceRecord "Error" [.field "kind" (.word kind), .field "message" (.text text)]

end FileError

end NumScript
