import Conform.FilePath
import Conform.Text.Quoted
import Conform.Text.Utf8

/-! # Access to files

What a program sees of the files there are: whether a path leads somewhere, to a file or to a
directory, the text of a file and the names in a directory. Each question may fail. A path that
leads nowhere is no failure where it is asked whether it leads somewhere.
-/

namespace Conform

/-- What the file system refuses a path for. -/
inductive Obstacle
  /-- Nothing stands there. -/
  | missing
  /-- A file stands where a directory is needed. -/
  | notDirectory
  /-- A directory stands where a file is needed. -/
  | isDirectory
  /-- A name on the way is too long. -/
  | nameTooLong
  deriving DecidableEq, Repr

namespace Obstacle

/-- The number of an obstacle. -/
def number : Obstacle → Nat
  | missing => 2
  | notDirectory => 20
  | isDirectory => 21
  | nameTooLong => 36

/-- The wording of an obstacle. -/
def text : Obstacle → String
  | missing => "No such file or directory"
  | notDirectory => "Not a directory"
  | isDirectory => "Is a directory"
  | nameTooLong => "File name too long"

end Obstacle

/-- Why a question about a file has no answer. -/
inductive AccessFault
  /-- The file system refuses a path. -/
  | refused (obstacle : Obstacle) (path : FilePath)
  /-- A path holds a null character. -/
  | nullCharacter
  /-- A file is no text. -/
  | malformed (found : Text.Utf8.Malformed)
  deriving DecidableEq, Repr

namespace AccessFault

/-- The wording of a fault. -/
def message : AccessFault → String
  | refused obstacle path =>
    "[Errno " ++ toString obstacle.number ++ "] " ++ obstacle.text ++ ": " ++
      Text.quotedString path.text
  | nullCharacter => "embedded null byte"
  | malformed found => found.message

end AccessFault

/-- The files as a program sees them. -/
structure Workspace where
  /-- The working directory, an absolute path. -/
  current : FilePath
  /-- Whether a path leads somewhere. -/
  present : FilePath → Except AccessFault Bool
  /-- Whether a path leads to a file. -/
  isFile : FilePath → Except AccessFault Bool
  /-- Whether a path leads to a directory. -/
  isDirectory : FilePath → Except AccessFault Bool
  /-- The text of a file. -/
  text : FilePath → Except AccessFault String
  /-- The names in a directory. -/
  list : FilePath → Except AccessFault (List String)
  /-- The files below a directory. -/
  below : FilePath → List FilePath

namespace Workspace

/-- A path that starts at the root. -/
def absolute (w : Workspace) (path : FilePath) : FilePath := w.current.join path

end Workspace

end Conform
