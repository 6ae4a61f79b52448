import Conform.Entries
import Conform.FilePath

/-! # Which files depend on which schema

The index lists, for every schema that is in use, the files that are checked against it. The
operations keep each file under one schema at most and keep no schema without files.
-/

namespace Conform

/-- The schemas in use, each with the files that depend on it. -/
structure Index where
  /-- The entries, in the order in which the schemas came into use. -/
  entries : List (FilePath × List FilePath)
  deriving DecidableEq, Repr

namespace Index

/-- The index without entries. -/
def empty : Index := ⟨[]⟩

/-- The files that depend on a schema. -/
def dependentsOf (index : Index) (schema : FilePath) : List FilePath :=
  (index.entries.lookup schema).getD []

/-- The schema of a file: the first one under which it stands. -/
def schemaFor? (index : Index) (file : FilePath) : Option FilePath :=
  (index.entries.find? fun entry => entry.2.contains file).map (·.1)

/-- The schemas in use. -/
def schemas (index : Index) : List FilePath := index.entries.map (·.1)

/-- An entry without a file. It is dropped if the file was its last one; an entry that does not have
the file stays as it is. -/
def withoutFile (file : FilePath) (entry : FilePath × List FilePath) :
    Option (FilePath × List FilePath) :=
  if entry.2.contains file then
    let rest := entry.2.filter (· != file)
    if rest.isEmpty then none else some (entry.1, rest)
  else some entry

/-- Takes a file from every schema. -/
def dissociate (index : Index) (file : FilePath) : Index :=
  ⟨index.entries.filterMap (withoutFile file)⟩

/-- Adds a file under a schema, which comes into use if it is not. -/
def addUnder (schema file : FilePath) :
    List (FilePath × List FilePath) → List (FilePath × List FilePath)
  | [] => [(schema, [file])]
  | (s, files) :: rest =>
    if s = schema then (s, if files.contains file then files else files ++ [file]) :: rest
    else (s, files) :: addUnder schema file rest

/-- Puts a file under a schema and takes it from every other one. -/
def associate (index : Index) (schema file : FilePath) : Index :=
  let others := index.entries.filterMap fun entry =>
    if entry.1 = schema then some entry else withoutFile file entry
  ⟨addUnder schema file others⟩

/-- Forgets a path, as a schema and as a file, and gives the files that depended on it. -/
def remove (index : Index) (path : FilePath) : List FilePath × Index :=
  (index.dependentsOf path, (Index.mk (Entries.erase path index.entries)).dissociate path)

/-- An index with the given entries. A schema or file that is listed again is not added again; the
files listed last for a schema count. -/
def ofEntries (entries : List (FilePath × List FilePath)) : Index :=
  ⟨entries.foldl (fun known (schema, files) => Entries.put schema files.eraseDups known) []⟩

end Index

end Conform
