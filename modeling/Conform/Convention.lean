import Conform.FilePath
import Conform.Text.Case

/-! # The naming convention

A data file finds its schema by name: the schema of `Foo.json` is called `FooSchema.json`,
`Foo.schema.json` or `schema.json` and lies in the same directory. Names are compared without regard
to case. A file whose own name is that of a schema has no schema.
-/

namespace Conform.Convention

/-- How the name of a schema ends, in lower case. -/
def schemaEnding : List Char := "schema.json".toList

/-- Whether a name is that of a schema. -/
def isSchemaName (name : String) : Bool := schemaEnding.isSuffixOf (Text.lower name).toList

/-- Whether a name is that of a document, in any case. -/
def isDocumentName (name : String) : Bool := ".json".toList.isSuffixOf (Text.lower name).toList

/-- The names that the schema of a file may have, the preferred one first. -/
def candidates (file : FilePath) : List String :=
  [file.stem ++ "Schema.json", file.stem ++ ".schema.json", "schema.json"]

/-- Names in the order of their code points. -/
def sortNames (names : List String) : List String := names.mergeSort fun a b => !decide (b < a)

/-- The first of the names, in order, that equals a wanted one up to case. -/
def find? (names : List String) (wanted : String) : Option String :=
  (sortNames names).find? fun name => Text.lower name == Text.lower wanted

end Conform.Convention
