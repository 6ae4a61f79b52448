import Conform.Entries
import Conform.FilePath
import Conform.Text.Case

/-! # Schemas by suffix

A provider has a schema for every file with one of its suffixes. A host is an editor that checks the
form of certain files itself. Suffixes are compared in lower case and with a dot in front.
-/

namespace Conform

/-- A suffix without white space around it, in lower case and with a dot, unless it is empty. -/
def normalizeSuffix (suffix : String) : String :=
  let suffix := Text.lower (Text.strip suffix)
  if suffix.isEmpty || ['.'].isPrefixOf suffix.toList then suffix else "." ++ suffix

/-- The schemas of files by suffix. -/
structure Provider where
  /-- The texts of the schemas under normalized suffixes, each of which stands once. -/
  schemas : List (String × String)

namespace Provider

/-- A provider with the given schemas. Of several spellings of one suffix the last counts. -/
def ofSchemas (schemas : List (String × String)) : Provider :=
  ⟨schemas.foldl (fun known (suffix, text) => Entries.put (normalizeSuffix suffix) text known) []⟩

/-- The suffixes. -/
def suffixes (p : Provider) : List String := p.schemas.map (·.1)

/-- The schema for a file. -/
def schemaFor? (p : Provider) (file : FilePath) : Option String :=
  p.schemas.lookup (Text.lower file.suffix)

/-- The schema for a file from the first of several providers that has one. -/
def first? (providers : List Provider) (file : FilePath) : Option String :=
  providers.findSome? (·.schemaFor? file)

end Provider

/-- An editor that checks the form of some files. -/
structure Host where
  /-- The normalized suffixes of the files it checks. -/
  suffixes : List String

namespace Host

/-- A host that checks files with the given suffixes. -/
def ofSuffixes (suffixes : List String) : Host := ⟨suffixes.map normalizeSuffix⟩

/-- Whether the host checks the form of a file. -/
def checks (host : Host) (file : FilePath) : Bool :=
  host.suffixes.contains (Text.lower file.suffix)

end Host

end Conform
