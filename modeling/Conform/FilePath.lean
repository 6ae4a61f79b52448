import Conform.Text.CodePoint

/-! # File paths

A path is the place it starts from and a list of names. Writing a path with repeated slashes, with
single dots or with a slash at its end makes no difference; two dots stay, because what they mean
depends on the files there are. Paths are ordered by their names, one after the other.
-/

namespace Conform

/-- Where a path starts. -/
inductive PathStart
  /-- At the working directory. -/
  | here
  /-- At the root. -/
  | root
  /-- At the root that exactly two slashes name. -/
  | doubleRoot
  deriving DecidableEq, Repr

/-- A path. -/
structure FilePath where
  /-- Where it starts. -/
  start : PathStart
  /-- The names on the way; none is empty or a single dot, and none holds a slash. -/
  names : List String
  deriving DecidableEq, Repr

/-- The written form of a start. -/
def PathStart.text : PathStart → String
  | here => ""
  | root => "/"
  | doubleRoot => "//"

namespace FilePath

/-- The start that leading slashes name. -/
def startOf : List Char → PathStart
  | '/' :: '/' :: '/' :: _ => .root
  | '/' :: '/' :: _ => .doubleRoot
  | '/' :: _ => .root
  | _ => .here

/-- The names between the slashes of a path. -/
def namesOf (cs : List Char) : List String :=
  ((Text.splitOn '/' cs).filter fun name => !name.isEmpty && name != ['.']).map String.ofList

/-- The path that a string writes. -/
def ofString (s : String) : FilePath := ⟨startOf s.toList, namesOf s.toList⟩

/-- The written form of a path; the path without names is a dot. -/
def text (p : FilePath) : String :=
  if p.start = .here && p.names.isEmpty then "."
  else p.start.text ++ "/".intercalate p.names

/-- The last name, or nothing. -/
def name (p : FilePath) : String := p.names.getLast?.getD ""

/-- The start and the names as a list, by which paths are ordered. -/
def parts (p : FilePath) : List String :=
  if p.start = .here then p.names else p.start.text :: p.names

/-- Whether a path comes before another one. -/
def before (p q : FilePath) : Bool := decide (p.parts < q.parts)

/-- The path of the directory that holds what the path names. -/
def parent (p : FilePath) : FilePath := { p with names := p.names.dropLast }

/-- A path with one more name. -/
def child (p : FilePath) (name : String) : FilePath := { p with names := p.names ++ [name] }

/-- The path that a second path means when it starts at the first. -/
def join (p q : FilePath) : FilePath :=
  if q.start = .here then { p with names := p.names ++ q.names } else q

/-- The name without its suffix, and the suffix: the part from the last dot on, if that dot neither
starts nor ends the name. -/
def splitSuffix (name : String) : String × String :=
  let cs := name.toList
  let tail := (cs.reverse.takeWhile (· != '.')).reverse
  let stem := cs.take (cs.length - tail.length - 1)
  if tail.length < cs.length && !tail.isEmpty && !stem.isEmpty then
    (String.ofList stem, String.ofList ('.' :: tail))
  else (name, "")

/-- The suffix of the last name. -/
def suffix (p : FilePath) : String := (splitSuffix p.name).2

/-- The last name without its suffix. -/
def stem (p : FilePath) : String := (splitSuffix p.name).1

/-- The names of a path behind those of another one, if it starts with them. -/
def below? (p root : FilePath) : Option FilePath :=
  if p.start = root.start && root.names.isPrefixOf p.names then
    some ⟨.here, p.names.drop root.names.length⟩
  else none

/-- A path as it is shown to someone who looks from a directory. -/
def shown (root : Option FilePath) (p : FilePath) : String :=
  match root.bind p.below? with
  | some inner => inner.text
  | none => p.text

/-- Paths in order. -/
def sort (paths : List FilePath) : List FilePath := paths.mergeSort fun p q => !q.before p

/-- Paths in the order of their written forms. -/
def sortByText (paths : List FilePath) : List FilePath :=
  paths.mergeSort fun p q => !decide (q.text < p.text)

end FilePath

end Conform
