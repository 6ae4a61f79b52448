import Conform.Metaschema.Shape

/-! # The language of Draft 6

The schema that every schema of this draft has to meet. The order of its members is the order in
which a schema is checked.
-/

namespace Conform.Metaschema.Draft6

/-- The language as a whole. -/
def language : Json :=
  object [
    ("$schema", text "http://json-schema.org/draft-06/schema#"),
    ("$id", text "http://json-schema.org/draft-06/schema#"),
    ("title", text "Core schema meta-schema"),
    ("definitions", object [
      ("schemaArray", object [("type", text "array"), ("minItems", .ofInt 1), ("items",
        reference "#")]),
      ("nonNegativeInteger", object [("type", text "integer"), ("minimum", .ofInt 0)]),
      ("nonNegativeIntegerDefault0", object [
        ("allOf", .arr [
          reference "#/definitions/nonNegativeInteger",
          object [("default", .ofInt 0)]])]),
      ("simpleTypes", object [
        ("enum", texts ["array", "boolean", "integer", "null", "number", "object", "string"])]),
      ("stringArray", object [
        ("type", text "array"),
        ("items", ofType "string"),
        ("uniqueItems", .bool true),
        ("default", .arr [])])]),
    ("type", texts ["object", "boolean"]),
    ("properties", object [
      ("$id", object [("type", text "string"), ("format", text "uri-reference")]),
      ("$schema", object [("type", text "string"), ("format", text "uri")]),
      ("$ref", object [("type", text "string"), ("format", text "uri-reference")]),
      ("title", ofType "string"),
      ("description", ofType "string"),
      ("default", object []),
      ("examples", object [("type", text "array"), ("items", object [])]),
      ("multipleOf", object [("type", text "number"), ("exclusiveMinimum", .ofInt 0)]),
      ("maximum", ofType "number"),
      ("exclusiveMaximum", ofType "number"),
      ("minimum", ofType "number"),
      ("exclusiveMinimum", ofType "number"),
      ("maxLength", reference "#/definitions/nonNegativeInteger"),
      ("minLength", reference "#/definitions/nonNegativeIntegerDefault0"),
      ("pattern", object [("type", text "string"), ("format", text "regex")]),
      ("additionalItems", reference "#"),
      ("items", object [
        ("anyOf", .arr [reference "#", reference "#/definitions/schemaArray"]),
        ("default", object [])]),
      ("maxItems", reference "#/definitions/nonNegativeInteger"),
      ("minItems", reference "#/definitions/nonNegativeIntegerDefault0"),
      ("uniqueItems", object [("type", text "boolean"), ("default", .bool false)]),
      ("contains", reference "#"),
      ("maxProperties", reference "#/definitions/nonNegativeInteger"),
      ("minProperties", reference "#/definitions/nonNegativeIntegerDefault0"),
      ("required", reference "#/definitions/stringArray"),
      ("additionalProperties", reference "#"),
      ("definitions", object [
        ("type", text "object"),
        ("additionalProperties", reference "#"),
        ("default", object [])]),
      ("properties", object [
        ("type", text "object"),
        ("additionalProperties", reference "#"),
        ("default", object [])]),
      ("patternProperties", object [
        ("type", text "object"),
        ("additionalProperties", reference "#"),
        ("propertyNames", object [("format", text "regex")]),
        ("default", object [])]),
      ("dependencies", object [
        ("type", text "object"),
        ("additionalProperties", object [("anyOf", .arr [reference "#",
          reference "#/definitions/stringArray"])])]),
      ("propertyNames", reference "#"),
      ("const", object []),
      ("enum", ofType "array"),
      ("type", object [
        ("anyOf", .arr [
          reference "#/definitions/simpleTypes",
          object [
            ("type", text "array"),
            ("items", reference "#/definitions/simpleTypes"),
            ("minItems", .ofInt 1),
            ("uniqueItems", .bool true)]])]),
      ("format", ofType "string"),
      ("allOf", reference "#/definitions/schemaArray"),
      ("anyOf", reference "#/definitions/schemaArray"),
      ("oneOf", reference "#/definitions/schemaArray"),
      ("not", reference "#")]),
    ("default", object [])]

end Conform.Metaschema.Draft6
