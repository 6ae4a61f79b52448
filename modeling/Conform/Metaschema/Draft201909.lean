import Conform.Metaschema.Shape

/-! # The language of Draft 2019-09

The schema that every schema of this draft has to meet, and the vocabularies it is put together
from. The order of members is the order in which a schema is checked.
-/

namespace Conform.Metaschema.Draft201909

/-- The language as a whole. -/
def language : Json :=
  object [
    ("$schema", text "https://json-schema.org/draft/2019-09/schema"),
    ("$id", text "https://json-schema.org/draft/2019-09/schema"),
    ("$vocabulary", object [
      ("https://json-schema.org/draft/2019-09/vocab/core", .bool true),
      ("https://json-schema.org/draft/2019-09/vocab/applicator", .bool true),
      ("https://json-schema.org/draft/2019-09/vocab/validation", .bool true),
      ("https://json-schema.org/draft/2019-09/vocab/meta-data", .bool true),
      ("https://json-schema.org/draft/2019-09/vocab/format", .bool false),
      ("https://json-schema.org/draft/2019-09/vocab/content", .bool true)]),
    ("$recursiveAnchor", .bool true),
    ("title", text "Core and Validation specifications meta-schema"),
    ("allOf", .arr [
      reference "meta/core",
      reference "meta/applicator",
      reference "meta/validation",
      reference "meta/meta-data",
      reference "meta/format",
      reference "meta/content"]),
    ("type", texts ["object", "boolean"]),
    ("properties", object [
      ("definitions", object [
        ("$comment", text (
          "While no longer an official keyword as it is replaced by " ++
          "$defs, this keyword is retained in the meta-schema to " ++
          "prevent incompatible extensions as it remains in common use.")),
        ("type", text "object"),
        ("additionalProperties", recursiveReference "#"),
        ("default", object [])]),
      ("dependencies", object [
        ("$comment", text (
          "\"dependencies\" is no longer a keyword, but schema authors " ++
          "should avoid redefining it to facilitate a smooth " ++
          "transition to \"dependentSchemas\" and \"dependentRequired\"")),
        ("type", text "object"),
        ("additionalProperties", object [
          ("anyOf", .arr [recursiveReference "#",
            reference "meta/validation#/$defs/stringArray"])])])])]

/-- The vocabulary `applicator`. -/
def applicator : Json :=
  object [
    ("$schema", text "https://json-schema.org/draft/2019-09/schema"),
    ("$id", text "https://json-schema.org/draft/2019-09/meta/applicator"),
    ("$vocabulary", object [("https://json-schema.org/draft/2019-09/vocab/applicator",
      .bool true)]),
    ("$recursiveAnchor", .bool true),
    ("title", text "Applicator vocabulary meta-schema"),
    ("type", texts ["object", "boolean"]),
    ("properties", object [
      ("additionalItems", recursiveReference "#"),
      ("unevaluatedItems", recursiveReference "#"),
      ("items", object [("anyOf", .arr [recursiveReference "#", reference "#/$defs/schemaArray"])]),
      ("contains", recursiveReference "#"),
      ("additionalProperties", recursiveReference "#"),
      ("unevaluatedProperties", recursiveReference "#"),
      ("properties", object [
        ("type", text "object"),
        ("additionalProperties", recursiveReference "#"),
        ("default", object [])]),
      ("patternProperties", object [
        ("type", text "object"),
        ("additionalProperties", recursiveReference "#"),
        ("propertyNames", object [("format", text "regex")]),
        ("default", object [])]),
      ("dependentSchemas", object [("type", text "object"), ("additionalProperties",
        recursiveReference "#")]),
      ("propertyNames", recursiveReference "#"),
      ("if", recursiveReference "#"),
      ("then", recursiveReference "#"),
      ("else", recursiveReference "#"),
      ("allOf", reference "#/$defs/schemaArray"),
      ("anyOf", reference "#/$defs/schemaArray"),
      ("oneOf", reference "#/$defs/schemaArray"),
      ("not", recursiveReference "#")]),
    ("$defs", object [
      ("schemaArray", object [
        ("type", text "array"),
        ("minItems", .ofInt 1),
        ("items", recursiveReference "#")])])]

/-- The vocabulary `content`. -/
def content : Json :=
  object [
    ("$schema", text "https://json-schema.org/draft/2019-09/schema"),
    ("$id", text "https://json-schema.org/draft/2019-09/meta/content"),
    ("$vocabulary", object [("https://json-schema.org/draft/2019-09/vocab/content", .bool true)]),
    ("$recursiveAnchor", .bool true),
    ("title", text "Content vocabulary meta-schema"),
    ("type", texts ["object", "boolean"]),
    ("properties", object [
      ("contentMediaType", ofType "string"),
      ("contentEncoding", ofType "string"),
      ("contentSchema", recursiveReference "#")])]

/-- The vocabulary `core`. -/
def core : Json :=
  object [
    ("$schema", text "https://json-schema.org/draft/2019-09/schema"),
    ("$id", text "https://json-schema.org/draft/2019-09/meta/core"),
    ("$vocabulary", object [("https://json-schema.org/draft/2019-09/vocab/core", .bool true)]),
    ("$recursiveAnchor", .bool true),
    ("title", text "Core vocabulary meta-schema"),
    ("type", texts ["object", "boolean"]),
    ("properties", object [
      ("$id", object [
        ("type", text "string"),
        ("format", text "uri-reference"),
        ("$comment", text "Non-empty fragments not allowed."),
        ("pattern", text "^[^#]*#?$")]),
      ("$schema", object [("type", text "string"), ("format", text "uri")]),
      ("$anchor", object [("type", text "string"), ("pattern", text "^[A-Za-z][-A-Za-z0-9.:_]*$")]),
      ("$ref", object [("type", text "string"), ("format", text "uri-reference")]),
      ("$recursiveRef", object [("type", text "string"), ("format", text "uri-reference")]),
      ("$recursiveAnchor", object [("type", text "boolean"), ("default", .bool false)]),
      ("$vocabulary", object [
        ("type", text "object"),
        ("propertyNames", object [("type", text "string"), ("format", text "uri")]),
        ("additionalProperties", ofType "boolean")]),
      ("$comment", ofType "string"),
      ("$defs", object [
        ("type", text "object"),
        ("additionalProperties", recursiveReference "#"),
        ("default", object [])])])]

/-- The vocabulary `format`. -/
def format : Json :=
  object [
    ("$schema", text "https://json-schema.org/draft/2019-09/schema"),
    ("$id", text "https://json-schema.org/draft/2019-09/meta/format"),
    ("$vocabulary", object [("https://json-schema.org/draft/2019-09/vocab/format", .bool true)]),
    ("$recursiveAnchor", .bool true),
    ("title", text "Format vocabulary meta-schema"),
    ("type", texts ["object", "boolean"]),
    ("properties", object [("format", ofType "string")])]

/-- The vocabulary `meta-data`. -/
def metaData : Json :=
  object [
    ("$schema", text "https://json-schema.org/draft/2019-09/schema"),
    ("$id", text "https://json-schema.org/draft/2019-09/meta/meta-data"),
    ("$vocabulary", object [("https://json-schema.org/draft/2019-09/vocab/meta-data", .bool true)]),
    ("$recursiveAnchor", .bool true),
    ("title", text "Meta-data vocabulary meta-schema"),
    ("type", texts ["object", "boolean"]),
    ("properties", object [
      ("title", ofType "string"),
      ("description", ofType "string"),
      ("default", .bool true),
      ("deprecated", object [("type", text "boolean"), ("default", .bool false)]),
      ("readOnly", object [("type", text "boolean"), ("default", .bool false)]),
      ("writeOnly", object [("type", text "boolean"), ("default", .bool false)]),
      ("examples", object [("type", text "array"), ("items", .bool true)])])]

/-- The vocabulary `validation`. -/
def validation : Json :=
  object [
    ("$schema", text "https://json-schema.org/draft/2019-09/schema"),
    ("$id", text "https://json-schema.org/draft/2019-09/meta/validation"),
    ("$vocabulary", object [("https://json-schema.org/draft/2019-09/vocab/validation",
      .bool true)]),
    ("$recursiveAnchor", .bool true),
    ("title", text "Validation vocabulary meta-schema"),
    ("type", texts ["object", "boolean"]),
    ("properties", object [
      ("multipleOf", object [("type", text "number"), ("exclusiveMinimum", .ofInt 0)]),
      ("maximum", ofType "number"),
      ("exclusiveMaximum", ofType "number"),
      ("minimum", ofType "number"),
      ("exclusiveMinimum", ofType "number"),
      ("maxLength", reference "#/$defs/nonNegativeInteger"),
      ("minLength", reference "#/$defs/nonNegativeIntegerDefault0"),
      ("pattern", object [("type", text "string"), ("format", text "regex")]),
      ("maxItems", reference "#/$defs/nonNegativeInteger"),
      ("minItems", reference "#/$defs/nonNegativeIntegerDefault0"),
      ("uniqueItems", object [("type", text "boolean"), ("default", .bool false)]),
      ("maxContains", reference "#/$defs/nonNegativeInteger"),
      ("minContains", object [("$ref", text "#/$defs/nonNegativeInteger"), ("default", .ofInt 1)]),
      ("maxProperties", reference "#/$defs/nonNegativeInteger"),
      ("minProperties", reference "#/$defs/nonNegativeIntegerDefault0"),
      ("required", reference "#/$defs/stringArray"),
      ("dependentRequired", object [
        ("type", text "object"),
        ("additionalProperties", reference "#/$defs/stringArray")]),
      ("const", .bool true),
      ("enum", object [("type", text "array"), ("items", .bool true)]),
      ("type", object [
        ("anyOf", .arr [
          reference "#/$defs/simpleTypes",
          object [
            ("type", text "array"),
            ("items", reference "#/$defs/simpleTypes"),
            ("minItems", .ofInt 1),
            ("uniqueItems", .bool true)]])])]),
    ("$defs", object [
      ("nonNegativeInteger", object [("type", text "integer"), ("minimum", .ofInt 0)]),
      ("nonNegativeIntegerDefault0", object [("$ref", text "#/$defs/nonNegativeInteger"),
        ("default", .ofInt 0)]),
      ("simpleTypes", object [
        ("enum", texts ["array", "boolean", "integer", "null", "number", "object", "string"])]),
      ("stringArray", object [
        ("type", text "array"),
        ("items", ofType "string"),
        ("uniqueItems", .bool true),
        ("default", .arr [])])])]

/-- The language and its vocabularies. -/
def documents : List Json :=
  [language, applicator, content, core, format, metaData, validation]

end Conform.Metaschema.Draft201909
