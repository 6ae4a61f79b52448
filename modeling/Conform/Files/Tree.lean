import Conform.Entries
import Conform.Files.Access

/-! # Trees of files

A tree is a file or a directory with named trees in it. A path leads from the root through
directories; two dots lead back to the directory before, so that what stands before them has to be
a directory that is there. A workspace is a tree that is seen from one of its directories.
-/

namespace Conform

/-- A file, or a directory with what stands in it. -/
inductive Tree
  | file (bytes : List UInt8)
  | directory (entries : List (String × Tree))
  deriving Inhabited

namespace Tree

/-- The number of bytes that a name may have. -/
def nameLimit : Nat := 255

/-- The number of bytes that a path may have. -/
def pathLimit : Nat := 4095

/-- What stands under a name in a directory. -/
def child? (name : String) : Tree → Option Tree
  | file _ => none
  | directory entries => entries.lookup name

/-- What stands at the end of names that lead on from a tree. The directories on the way to it are
given innermost first; two dots at the root stay there. -/
def walk (outer : List Tree) (here : Tree) : List String → Except Obstacle Tree
  | [] => .ok here
  | name :: rest =>
    match here with
    | file _ => .error .notDirectory
    | directory _ =>
      if name = ".." then
        match outer with
        | [] => walk [] here rest
        | parent :: outer => walk outer parent rest
      else if nameLimit < name.utf8ByteSize then .error .nameTooLong
      else
        match here.child? name with
        | none => .error .missing
        | some next => walk (here :: outer) next rest

/-- The entries of a directory that is there. -/
def entries : Option Tree → List (String × Tree)
  | some (directory entries) => entries
  | _ => []

/-- Puts a tree in the place of what stands at the end of names. Directories that are missing on the
way are made, and a file in the way gives way to one. -/
def put (make : Option Tree → Tree) : List String → Option Tree → Tree
  | [], found => make found
  | name :: rest, found =>
    directory (Entries.put name (put make rest ((entries found).lookup name)) (entries found))

/-- Makes a file, and the directories on the way to it. -/
def write (names : List String) (bytes : List UInt8) (tree : Tree) : Tree :=
  put (fun _ => file bytes) names (some tree)

/-- Makes a directory, and the directories on the way to it. One that is there stays. -/
def makeDirectory (names : List String) (tree : Tree) : Tree :=
  put (fun found => directory (entries found)) names (some tree)

/-- Removes what stands at the end of names. -/
def delete : List String → Tree → Tree
  | [name], directory entries => directory (entries.filter fun entry => entry.1 != name)
  | name :: rest, directory entries =>
    directory (entries.map fun (other, tree) =>
      (other, if other = name then delete rest tree else tree))
  | _, tree => tree

mutual

/-- The names that lead to the files of a tree. -/
def files : Tree → List (List String)
  | file _ => [[]]
  | directory entries => entryFiles entries

/-- The names that lead to the files of the entries of a directory. -/
def entryFiles : List (String × Tree) → List (List String)
  | [] => []
  | (name, tree) :: rest => (files tree).map (name :: ·) ++ entryFiles rest

end

/-- What stands at a path, seen from a directory. -/
def find (root : Tree) (current path : FilePath) : Except AccessFault Tree :=
  if path.text.toList.contains '\x00' then .error .nullCharacter
  else if pathLimit < path.text.utf8ByteSize then .error (.refused .nameTooLong path)
  else
    match walk [] root (current.join path).names with
    | .error obstacle => .error (.refused obstacle path)
    | .ok tree => .ok tree

/-- Whether something of a kind stands at a path. Nothing stands where no path leads. -/
def holds (kind : Tree → Bool) (found : Except AccessFault Tree) : Except AccessFault Bool :=
  match found with
  | .ok tree => .ok (kind tree)
  | .error (.refused .nameTooLong path) => .error (.refused .nameTooLong path)
  | .error _ => .ok false

/-- Whether a tree is a file. -/
def isFile : Tree → Bool
  | file _ => true
  | directory _ => false

/-- The text of a file that was found at a path. -/
def textAt (path : FilePath) : Tree → Except AccessFault String
  | directory _ => .error (.refused .isDirectory path)
  | file bytes =>
    match Text.Utf8.fileText bytes with
    | .error found => .error (.malformed found)
    | .ok text => .ok text

/-- The names in a directory that was found at a path. -/
def namesAt (path : FilePath) : Tree → Except AccessFault (List String)
  | file _ => .error (.refused .notDirectory path)
  | directory entries => .ok (entries.map (·.1))

/-- The files of a tree as they are seen from a directory. -/
def workspace (root : Tree) (current : FilePath) : Workspace where
  current
  present path := holds (fun _ => true) (root.find current path)
  isFile path := holds isFile (root.find current path)
  isDirectory path := holds (fun tree => !tree.isFile) (root.find current path)
  text path := root.find current path >>= textAt path
  list path := root.find current path >>= namesAt path
  below path :=
    match root.find current path with
    | .ok (directory entries) =>
      (entryFiles entries).map fun names => { path with names := path.names ++ names }
    | _ => []

end Tree

end Conform
