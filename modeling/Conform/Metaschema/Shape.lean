import Conform.Json.Value

/-! # Shapes of schemas

The languages of the drafts are written down as JSON values. These are the shapes they repeat most.
-/

namespace Conform.Metaschema

/-- An object with the given members. -/
def object (members : List (String × Json)) : Json := Json.record members

/-- A string. -/
def text (s : String) : Json := Json.ofString s

/-- An array of strings. -/
def texts (items : List String) : Json := .arr (items.map Json.ofString)

/-- A schema that names a type and nothing else. -/
def ofType (name : String) : Json := object [("type", text name)]

/-- A schema that refers to another one. -/
def reference (target : String) : Json := object [("$ref", text target)]

/-- A schema that refers to an anchor of the outermost language that has it. -/
def dynamicReference (target : String) : Json := object [("$dynamicRef", text target)]

/-- A schema that refers to the outermost language. -/
def recursiveReference (target : String) : Json := object [("$recursiveRef", text target)]

end Conform.Metaschema
