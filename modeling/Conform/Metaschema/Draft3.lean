import Conform.Metaschema.Shape

/-! # The language of Draft 3

The schema that every schema of this draft has to meet. The order of its members is the order in
which a schema is checked.
-/

namespace Conform.Metaschema.Draft3

/-- The language as a whole. -/
def language : Json :=
  object [
    ("$schema", text "http://json-schema.org/draft-03/schema#"),
    ("id", text "http://json-schema.org/draft-03/schema#"),
    ("type", text "object"),
    ("properties", object [
      ("type", object [
        ("type", texts ["string", "array"]),
        ("items", object [("type", .arr [text "string", reference "#"])]),
        ("uniqueItems", .bool true),
        ("default", text "any")]),
      ("properties", object [
        ("type", text "object"),
        ("additionalProperties", reference "#"),
        ("default", object [])]),
      ("patternProperties", object [
        ("type", text "object"),
        ("additionalProperties", reference "#"),
        ("default", object [])]),
      ("additionalProperties", object [("type", .arr [reference "#", text "boolean"]),
        ("default", object [])]),
      ("items", object [
        ("type", .arr [reference "#", text "array"]),
        ("items", reference "#"),
        ("default", object [])]),
      ("additionalItems", object [("type", .arr [reference "#", text "boolean"]), ("default",
        object [])]),
      ("required", object [("type", text "boolean"), ("default", .bool false)]),
      ("dependencies", object [
        ("type", text "object"),
        ("additionalProperties", object [
          ("type", .arr [text "string", text "array", reference "#"]),
          ("items", ofType "string")]),
        ("default", object [])]),
      ("minimum", ofType "number"),
      ("maximum", ofType "number"),
      ("exclusiveMinimum", object [("type", text "boolean"), ("default", .bool false)]),
      ("exclusiveMaximum", object [("type", text "boolean"), ("default", .bool false)]),
      ("minItems", object [("type", text "integer"), ("minimum", .ofInt 0), ("default", .ofInt 0)]),
      ("maxItems", object [("type", text "integer"), ("minimum", .ofInt 0)]),
      ("uniqueItems", object [("type", text "boolean"), ("default", .bool false)]),
      ("pattern", object [("type", text "string"), ("format", text "regex")]),
      ("minLength", object [("type", text "integer"), ("minimum", .ofInt 0), ("default",
        .ofInt 0)]),
      ("maxLength", ofType "integer"),
      ("enum", object [("type", text "array"), ("minItems", .ofInt 1), ("uniqueItems",
        .bool true)]),
      ("default", ofType "any"),
      ("title", ofType "string"),
      ("description", ofType "string"),
      ("format", ofType "string"),
      ("divisibleBy", object [
        ("type", text "number"),
        ("minimum", .ofInt 0),
        ("exclusiveMinimum", .bool true),
        ("default", .ofInt 1)]),
      ("disallow", object [
        ("type", texts ["string", "array"]),
        ("items", object [("type", .arr [text "string", reference "#"])]),
        ("uniqueItems", .bool true)]),
      ("extends", object [
        ("type", .arr [reference "#", text "array"]),
        ("items", reference "#"),
        ("default", object [])]),
      ("id", ofType "string"),
      ("$ref", ofType "string"),
      ("$schema", object [("type", text "string"), ("format", text "uri")])]),
    ("dependencies", object [("exclusiveMinimum", text "minimum"), ("exclusiveMaximum",
      text "maximum")]),
    ("default", object [])]

end Conform.Metaschema.Draft3
