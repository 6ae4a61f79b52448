import Conform.Convention
import Conform.Files.Access

/-! # Collecting files

Files are collected from paths: a path to a file gives that file, and a path to a directory gives
the files below it whose suffix is wanted. Each file is visited once. Schemas come last, so that the
files they are for are known when they are visited.
-/

namespace Conform.Collect

/-- The suffix of the files that are wanted where nothing else is said. -/
def documentSuffixes : List String := [".json"]

/-- Whether the suffix of a file is wanted. -/
def isWanted (suffixes : List String) (file : FilePath) : Bool :=
  suffixes.contains (Text.lower file.suffix)

/-- The files that a path gives. -/
def ofPath (w : Workspace) (suffixes : List String) (path : FilePath) :
    Except AccessFault (List FilePath) := do
  let path := w.absolute path
  if ← w.isDirectory path then
    return (w.below path).filter (isWanted suffixes)
  if ← w.isFile path then
    return [path]
  return []

/-- Whether a file is visited before another one or is the same: files that are no schemas come
first, and files of one sort follow the order of their written forms. -/
def visitedBefore (p q : FilePath) : Bool :=
  let schemaP := Convention.isSchemaName p.name
  let schemaQ := Convention.isSchemaName q.name
  if schemaP = schemaQ then !decide (q.text < p.text) else schemaQ

/-- The files that paths give, in the order in which they are visited. -/
def files (w : Workspace) (suffixes : List String) (paths : List FilePath) :
    Except AccessFault (List FilePath) :=
  (paths.mapM (ofPath w suffixes)).map fun found =>
    found.flatten.eraseDups.mergeSort visitedBefore

end Conform.Collect
