import Conform.Metaschema.Shape

/-! # The language of Draft 4

The schema that every schema of this draft has to meet. The order of its members is the order in
which a schema is checked.
-/

namespace Conform.Metaschema.Draft4

/-- The language as a whole. -/
def language : Json :=
  object [
    ("id", text "http://json-schema.org/draft-04/schema#"),
    ("$schema", text "http://json-schema.org/draft-04/schema#"),
    ("description", text "Core schema meta-schema"),
    ("definitions", object [
      ("schemaArray", object [("type", text "array"), ("minItems", .ofInt 1), ("items",
        reference "#")]),
      ("positiveInteger", object [("type", text "integer"), ("minimum", .ofInt 0)]),
      ("positiveIntegerDefault0", object [
        ("allOf", .arr [reference "#/definitions/positiveInteger", object [("default",
          .ofInt 0)]])]),
      ("simpleTypes", object [
        ("enum", texts ["array", "boolean", "integer", "null", "number", "object", "string"])]),
      ("stringArray", object [
        ("type", text "array"),
        ("items", ofType "string"),
        ("minItems", .ofInt 1),
        ("uniqueItems", .bool true)])]),
    ("type", text "object"),
    ("properties", object [
      ("id", ofType "string"),
      ("$schema", ofType "string"),
      ("title", ofType "string"),
      ("description", ofType "string"),
      ("default", object []),
      ("multipleOf", object [
        ("type", text "number"),
        ("minimum", .ofInt 0),
        ("exclusiveMinimum", .bool true)]),
      ("maximum", ofType "number"),
      ("exclusiveMaximum", object [("type", text "boolean"), ("default", .bool false)]),
      ("minimum", ofType "number"),
      ("exclusiveMinimum", object [("type", text "boolean"), ("default", .bool false)]),
      ("maxLength", reference "#/definitions/positiveInteger"),
      ("minLength", reference "#/definitions/positiveIntegerDefault0"),
      ("pattern", object [("type", text "string"), ("format", text "regex")]),
      ("additionalItems", object [("anyOf", .arr [ofType "boolean", reference "#"]),
        ("default", object [])]),
      ("items", object [
        ("anyOf", .arr [reference "#", reference "#/definitions/schemaArray"]),
        ("default", object [])]),
      ("maxItems", reference "#/definitions/positiveInteger"),
      ("minItems", reference "#/definitions/positiveIntegerDefault0"),
      ("uniqueItems", object [("type", text "boolean"), ("default", .bool false)]),
      ("maxProperties", reference "#/definitions/positiveInteger"),
      ("minProperties", reference "#/definitions/positiveIntegerDefault0"),
      ("required", reference "#/definitions/stringArray"),
      ("additionalProperties", object [("anyOf", .arr [ofType "boolean", reference "#"]),
        ("default", object [])]),
      ("definitions", object [
        ("type", text "object"),
        ("additionalProperties", reference "#"),
        ("default", object [])]),
      ("properties", object [
        ("type", text "object"),
        ("additionalProperties", reference "#"),
        ("default", object [])]),
      ("patternProperties", object [
        ("type", text "object"),
        ("additionalProperties", reference "#"),
        ("default", object [])]),
      ("dependencies", object [
        ("type", text "object"),
        ("additionalProperties", object [("anyOf", .arr [reference "#",
          reference "#/definitions/stringArray"])])]),
      ("enum", object [("type", text "array"), ("minItems", .ofInt 1), ("uniqueItems",
        .bool true)]),
      ("type", object [
        ("anyOf", .arr [
          reference "#/definitions/simpleTypes",
          object [
            ("type", text "array"),
            ("items", reference "#/definitions/simpleTypes"),
            ("minItems", .ofInt 1),
            ("uniqueItems", .bool true)]])]),
      ("format", ofType "string"),
      ("allOf", reference "#/definitions/schemaArray"),
      ("anyOf", reference "#/definitions/schemaArray"),
      ("oneOf", reference "#/definitions/schemaArray"),
      ("not", reference "#")]),
    ("dependencies", object [
      ("exclusiveMaximum", texts ["maximum"]),
      ("exclusiveMinimum", texts ["minimum"])]),
    ("default", object [])]

end Conform.Metaschema.Draft4
