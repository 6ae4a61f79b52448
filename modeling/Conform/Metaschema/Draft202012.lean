import Conform.Metaschema.Shape

/-! # The language of Draft 2020-12

The schema that every schema of this draft has to meet, and the vocabularies it is put together
from. The order of members is the order in which a schema is checked.
-/

namespace Conform.Metaschema.Draft202012

/-- The language as a whole. -/
def language : Json :=
  object [
    ("$schema", text "https://json-schema.org/draft/2020-12/schema"),
    ("$id", text "https://json-schema.org/draft/2020-12/schema"),
    ("$vocabulary", object [
      ("https://json-schema.org/draft/2020-12/vocab/core", .bool true),
      ("https://json-schema.org/draft/2020-12/vocab/applicator", .bool true),
      ("https://json-schema.org/draft/2020-12/vocab/unevaluated", .bool true),
      ("https://json-schema.org/draft/2020-12/vocab/validation", .bool true),
      ("https://json-schema.org/draft/2020-12/vocab/meta-data", .bool true),
      ("https://json-schema.org/draft/2020-12/vocab/format-annotation", .bool true),
      ("https://json-schema.org/draft/2020-12/vocab/content", .bool true)]),
    ("$dynamicAnchor", text "meta"),
    ("title", text "Core and Validation specifications meta-schema"),
    ("allOf", .arr [
      reference "meta/core",
      reference "meta/applicator",
      reference "meta/unevaluated",
      reference "meta/validation",
      reference "meta/meta-data",
      reference "meta/format-annotation",
      reference "meta/content"]),
    ("type", texts ["object", "boolean"]),
    ("$comment", text (
      "This meta-schema also defines keywords that have appeared " ++
      "in previous drafts in order to prevent incompatible " ++
      "extensions as they remain in common use.")),
    ("properties", object [
      ("definitions", object [
        ("$comment", text "\"definitions\" has been replaced by \"$defs\"."),
        ("type", text "object"),
        ("additionalProperties", dynamicReference "#meta"),
        ("deprecated", .bool true),
        ("default", object [])]),
      ("dependencies", object [
        ("$comment", text (
          "\"dependencies\" has been split and replaced by " ++
          "\"dependentSchemas\" and \"dependentRequired\" in order to " ++
          "serve their differing semantics.")),
        ("type", text "object"),
        ("additionalProperties", object [
          ("anyOf", .arr [
            dynamicReference "#meta",
            reference "meta/validation#/$defs/stringArray"])]),
        ("deprecated", .bool true),
        ("default", object [])]),
      ("$recursiveAnchor", object [
        ("$comment", text "\"$recursiveAnchor\" has been replaced by \"$dynamicAnchor\"."),
        ("$ref", text "meta/core#/$defs/anchorString"),
        ("deprecated", .bool true)]),
      ("$recursiveRef", object [
        ("$comment", text "\"$recursiveRef\" has been replaced by \"$dynamicRef\"."),
        ("$ref", text "meta/core#/$defs/uriReferenceString"),
        ("deprecated", .bool true)])])]

/-- The vocabulary `applicator`. -/
def applicator : Json :=
  object [
    ("$schema", text "https://json-schema.org/draft/2020-12/schema"),
    ("$id", text "https://json-schema.org/draft/2020-12/meta/applicator"),
    ("$vocabulary", object [("https://json-schema.org/draft/2020-12/vocab/applicator",
      .bool true)]),
    ("$dynamicAnchor", text "meta"),
    ("title", text "Applicator vocabulary meta-schema"),
    ("type", texts ["object", "boolean"]),
    ("properties", object [
      ("prefixItems", reference "#/$defs/schemaArray"),
      ("items", dynamicReference "#meta"),
      ("contains", dynamicReference "#meta"),
      ("additionalProperties", dynamicReference "#meta"),
      ("properties", object [
        ("type", text "object"),
        ("additionalProperties", dynamicReference "#meta"),
        ("default", object [])]),
      ("patternProperties", object [
        ("type", text "object"),
        ("additionalProperties", dynamicReference "#meta"),
        ("propertyNames", object [("format", text "regex")]),
        ("default", object [])]),
      ("dependentSchemas", object [
        ("type", text "object"),
        ("additionalProperties", dynamicReference "#meta"),
        ("default", object [])]),
      ("propertyNames", dynamicReference "#meta"),
      ("if", dynamicReference "#meta"),
      ("then", dynamicReference "#meta"),
      ("else", dynamicReference "#meta"),
      ("allOf", reference "#/$defs/schemaArray"),
      ("anyOf", reference "#/$defs/schemaArray"),
      ("oneOf", reference "#/$defs/schemaArray"),
      ("not", dynamicReference "#meta")]),
    ("$defs", object [
      ("schemaArray", object [
        ("type", text "array"),
        ("minItems", .ofInt 1),
        ("items", dynamicReference "#meta")])])]

/-- The vocabulary `content`. -/
def content : Json :=
  object [
    ("$schema", text "https://json-schema.org/draft/2020-12/schema"),
    ("$id", text "https://json-schema.org/draft/2020-12/meta/content"),
    ("$vocabulary", object [("https://json-schema.org/draft/2020-12/vocab/content", .bool true)]),
    ("$dynamicAnchor", text "meta"),
    ("title", text "Content vocabulary meta-schema"),
    ("type", texts ["object", "boolean"]),
    ("properties", object [
      ("contentEncoding", ofType "string"),
      ("contentMediaType", ofType "string"),
      ("contentSchema", dynamicReference "#meta")])]

/-- The vocabulary `core`. -/
def core : Json :=
  object [
    ("$schema", text "https://json-schema.org/draft/2020-12/schema"),
    ("$id", text "https://json-schema.org/draft/2020-12/meta/core"),
    ("$vocabulary", object [("https://json-schema.org/draft/2020-12/vocab/core", .bool true)]),
    ("$dynamicAnchor", text "meta"),
    ("title", text "Core vocabulary meta-schema"),
    ("type", texts ["object", "boolean"]),
    ("properties", object [
      ("$id", object [
        ("$ref", text "#/$defs/uriReferenceString"),
        ("$comment", text "Non-empty fragments not allowed."),
        ("pattern", text "^[^#]*#?$")]),
      ("$schema", reference "#/$defs/uriString"),
      ("$ref", reference "#/$defs/uriReferenceString"),
      ("$anchor", reference "#/$defs/anchorString"),
      ("$dynamicRef", reference "#/$defs/uriReferenceString"),
      ("$dynamicAnchor", reference "#/$defs/anchorString"),
      ("$vocabulary", object [
        ("type", text "object"),
        ("propertyNames", reference "#/$defs/uriString"),
        ("additionalProperties", ofType "boolean")]),
      ("$comment", ofType "string"),
      ("$defs", object [("type", text "object"), ("additionalProperties",
        dynamicReference "#meta")])]),
    ("$defs", object [
      ("anchorString", object [("type", text "string"), ("pattern",
        text "^[A-Za-z_][-A-Za-z0-9._]*$")]),
      ("uriString", object [("type", text "string"), ("format", text "uri")]),
      ("uriReferenceString", object [("type", text "string"), ("format", text "uri-reference")])])]

/-- The vocabulary `format-annotation`. -/
def formatAnnotation : Json :=
  object [
    ("$schema", text "https://json-schema.org/draft/2020-12/schema"),
    ("$id", text "https://json-schema.org/draft/2020-12/meta/format-annotation"),
    ("$vocabulary", object [("https://json-schema.org/draft/2020-12/vocab/format-annotation",
      .bool true)]),
    ("$dynamicAnchor", text "meta"),
    ("title", text "Format vocabulary meta-schema for annotation results"),
    ("type", texts ["object", "boolean"]),
    ("properties", object [("format", ofType "string")])]

/-- The vocabulary `format-assertion`. -/
def formatAssertion : Json :=
  object [
    ("$schema", text "https://json-schema.org/draft/2020-12/schema"),
    ("$id", text "https://json-schema.org/draft/2020-12/meta/format-assertion"),
    ("$vocabulary", object [("https://json-schema.org/draft/2020-12/vocab/format-assertion",
      .bool true)]),
    ("$dynamicAnchor", text "meta"),
    ("title", text "Format vocabulary meta-schema for assertion results"),
    ("type", texts ["object", "boolean"]),
    ("properties", object [("format", ofType "string")])]

/-- The vocabulary `meta-data`. -/
def metaData : Json :=
  object [
    ("$schema", text "https://json-schema.org/draft/2020-12/schema"),
    ("$id", text "https://json-schema.org/draft/2020-12/meta/meta-data"),
    ("$vocabulary", object [("https://json-schema.org/draft/2020-12/vocab/meta-data", .bool true)]),
    ("$dynamicAnchor", text "meta"),
    ("title", text "Meta-data vocabulary meta-schema"),
    ("type", texts ["object", "boolean"]),
    ("properties", object [
      ("title", ofType "string"),
      ("description", ofType "string"),
      ("default", .bool true),
      ("deprecated", object [("type", text "boolean"), ("default", .bool false)]),
      ("readOnly", object [("type", text "boolean"), ("default", .bool false)]),
      ("writeOnly", object [("type", text "boolean"), ("default", .bool false)]),
      ("examples", object [("type", text "array"), ("items", .bool true)])])]

/-- The vocabulary `unevaluated`. -/
def unevaluated : Json :=
  object [
    ("$schema", text "https://json-schema.org/draft/2020-12/schema"),
    ("$id", text "https://json-schema.org/draft/2020-12/meta/unevaluated"),
    ("$vocabulary", object [("https://json-schema.org/draft/2020-12/vocab/unevaluated",
      .bool true)]),
    ("$dynamicAnchor", text "meta"),
    ("title", text "Unevaluated applicator vocabulary meta-schema"),
    ("type", texts ["object", "boolean"]),
    ("properties", object [
      ("unevaluatedItems", dynamicReference "#meta"),
      ("unevaluatedProperties", dynamicReference "#meta")])]

/-- The vocabulary `validation`. -/
def validation : Json :=
  object [
    ("$schema", text "https://json-schema.org/draft/2020-12/schema"),
    ("$id", text "https://json-schema.org/draft/2020-12/meta/validation"),
    ("$vocabulary", object [("https://json-schema.org/draft/2020-12/vocab/validation",
      .bool true)]),
    ("$dynamicAnchor", text "meta"),
    ("title", text "Validation vocabulary meta-schema"),
    ("type", texts ["object", "boolean"]),
    ("properties", object [
      ("type", object [
        ("anyOf", .arr [
          reference "#/$defs/simpleTypes",
          object [
            ("type", text "array"),
            ("items", reference "#/$defs/simpleTypes"),
            ("minItems", .ofInt 1),
            ("uniqueItems", .bool true)]])]),
      ("const", .bool true),
      ("enum", object [("type", text "array"), ("items", .bool true)]),
      ("multipleOf", object [("type", text "number"), ("exclusiveMinimum", .ofInt 0)]),
      ("maximum", ofType "number"),
      ("exclusiveMaximum", ofType "number"),
      ("minimum", ofType "number"),
      ("exclusiveMinimum", ofType "number"),
      ("maxLength", reference "#/$defs/nonNegativeInteger"),
      ("minLength", reference "#/$defs/nonNegativeIntegerDefault0"),
      ("pattern", object [("type", text "string"), ("format", text "regex")]),
      ("maxItems", reference "#/$defs/nonNegativeInteger"),
      ("minItems", reference "#/$defs/nonNegativeIntegerDefault0"),
      ("uniqueItems", object [("type", text "boolean"), ("default", .bool false)]),
      ("maxContains", reference "#/$defs/nonNegativeInteger"),
      ("minContains", object [("$ref", text "#/$defs/nonNegativeInteger"), ("default", .ofInt 1)]),
      ("maxProperties", reference "#/$defs/nonNegativeInteger"),
      ("minProperties", reference "#/$defs/nonNegativeIntegerDefault0"),
      ("required", reference "#/$defs/stringArray"),
      ("dependentRequired", object [
        ("type", text "object"),
        ("additionalProperties", reference "#/$defs/stringArray")])]),
    ("$defs", object [
      ("nonNegativeInteger", object [("type", text "integer"), ("minimum", .ofInt 0)]),
      ("nonNegativeIntegerDefault0", object [("$ref", text "#/$defs/nonNegativeInteger"),
        ("default", .ofInt 0)]),
      ("simpleTypes", object [
        ("enum", texts ["array", "boolean", "integer", "null", "number", "object", "string"])]),
      ("stringArray", object [
        ("type", text "array"),
        ("items", ofType "string"),
        ("uniqueItems", .bool true),
        ("default", .arr [])])])]

/-- The language and its vocabularies. -/
def documents : List Json :=
  [language, applicator, content, core, formatAnnotation, formatAssertion, metaData,
    unevaluated, validation]

end Conform.Metaschema.Draft202012
