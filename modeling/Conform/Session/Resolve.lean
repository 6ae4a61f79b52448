import Conform.Convention
import Conform.Session.Basic

/-! # Finding the schema of a file

The schema of a file is the first file beside it that has one of the names a schema of it may have,
the preferred names first. What is found is put into the index. A schema has none.
-/

namespace Conform

/-- The first file in a directory, among the names there, that has one of the wanted names. A
directory with such a name is passed over, and with it all other names that equal it up to case. -/
def Convention.choose (w : Workspace) (directory : FilePath) (names : List String) :
    List String → Except AccessFault (Option FilePath)
  | [] => .ok none
  | wanted :: rest =>
    match find? names wanted with
    | none => choose w directory names rest
    | some name =>
      match w.isFile (directory.child name) with
      | .error fault => .error fault
      | .ok true => .ok (some (directory.child name))
      | .ok false => choose w directory names rest

namespace Session

/-- The names in a directory. One that is not listed counts as empty. -/
def namesIn (w : Workspace) (directory : FilePath) (s : Session) : Outcome (List String) :=
  match w.list directory with
  | .ok names => s.done names
  | .error .nullCharacter => s.broken (.access .nullCharacter)
  | .error fault => (s.done []).logging (.unlisted directory fault)

/-- Finds the schema of a file and puts the file under it. -/
def resolve (w : Workspace) (file : FilePath) (s : Session) : Outcome (Option FilePath) :=
  if Convention.isSchemaName file.name then s.done none
  else
    (s.namesIn w file.parent).andThen fun names s =>
      match Convention.choose w file.parent names (Convention.candidates file) with
      | .error fault => s.broken (.access fault)
      | .ok none => s.done none
      | .ok (some schema) => { s with index := s.index.associate schema file }.done (some schema)

end Session

end Conform
