import Conform.Metaschema.Draft3
import Conform.Metaschema.Draft4
import Conform.Metaschema.Draft6
import Conform.Metaschema.Draft7
import Conform.Metaschema.Draft201909
import Conform.Metaschema.Draft202012
import Conform.Uri

/-! # Drafts

Schemas are written in one of six drafts of the schema language. The draft decides which keywords
mean something and what they mean; a keyword of a draft is given its meaning as a `Rule`.
-/

namespace Conform

/-- A draft of the schema language. -/
inductive Draft
  | draft3
  | draft4
  | draft6
  | draft7
  | draft201909
  | draft202012
  deriving DecidableEq, Repr

/-- What a keyword demands of a value. -/
inductive Rule
  | reference
  | recursiveReference
  | type
  /-- Like `type`, where a type may also be a schema. -/
  | typeOrSchema
  | enumeration
  | constant
  | minimum
  | maximum
  | exclusiveMinimum
  | exclusiveMaximum
  /-- Like `minimum`, where another keyword says whether the limit itself is excluded. -/
  | flaggedMinimum
  | flaggedMaximum
  | multipleOf
  | minLength
  | maxLength
  | pattern
  | format
  | minItems
  | maxItems
  | uniqueItems
  | prefixItems
  /-- The items behind those of `prefixItems`. -/
  | restItems
  /-- All items, or the first items one by one. -/
  | itemsOrTuple
  /-- Like `itemsOrTuple`, where a single schema has to be an object. -/
  | itemsOrTupleStrict
  | additionalItems
  | contains
  | containsAny
  | unevaluatedItems
  | properties
  /-- Like `properties`, where a property's own schema may require it. -/
  | propertiesWithRequired
  | patternProperties
  | additionalProperties
  | propertyNames
  | unevaluatedProperties
  | required
  | minProperties
  | maxProperties
  | dependentRequired
  | dependentSchemas
  | dependencies
  /-- Like `dependencies`, where one name may stand for a list of one. -/
  | dependenciesOrName
  | allOf
  | anyOf
  | oneOf
  | not
  | conditional
  | disallow
  | extension
  deriving DecidableEq, Repr

namespace Draft

/-- The schema that every schema of the draft has to meet. -/
def language : Draft → Json
  | draft3 => Metaschema.Draft3.language
  | draft4 => Metaschema.Draft4.language
  | draft6 => Metaschema.Draft6.language
  | draft7 => Metaschema.Draft7.language
  | draft201909 => Metaschema.Draft201909.language
  | draft202012 => Metaschema.Draft202012.language

/-- The draft of schemas that do not name one. -/
def latest : Draft := draft202012

/-- The drafts by the names that schemas give them, without an empty fragment. -/
def names : List (Text × Draft) :=
  [("http://json-schema.org/draft-03/schema", draft3),
    ("http://json-schema.org/draft-04/schema", draft4),
    ("http://json-schema.org/draft-06/schema", draft6),
    ("http://json-schema.org/draft-07/schema", draft7),
    ("https://json-schema.org/draft/2019-09/schema", draft201909),
    ("https://json-schema.org/draft/2020-12/schema", draft202012)].map
      fun ((name : String), draft) => (Text.ofString name, draft)

/-- The draft with a name. -/
def named? (name : Text) : Option Draft := names.lookup name

/-- Whether a reference makes its neighbours meaningless. -/
def refersAlone : Draft → Bool
  | draft3 => true
  | draft4 => true
  | draft6 => true
  | draft7 => true
  | draft201909 => false
  | draft202012 => false

/-- Whether a number with a point but without a fraction is an integer. -/
def admitsIntegralReals : Draft → Bool
  | draft3 => false
  | draft4 => false
  | _ => true

/-- The keyword that gives a schema its name. -/
def idKeyword : Draft → Text
  | draft3 => Text.ofString "id"
  | draft4 => Text.ofString "id"
  | _ => Text.ofString "$id"

/-- Keywords with their rules. -/
abbrev Rules := List (Text × Rule)

/-- Rules by the names of their keywords. -/
def rulesOf (named : List (String × Rule)) : Rules :=
  named.map fun (name, rule) => (Text.ofString name, rule)

/-- The keywords that mean the same in every draft. -/
def everywhere : Rules :=
  rulesOf [
    ("$ref", .reference),
    ("additionalProperties", .additionalProperties),
    ("enum", .enumeration),
    ("format", .format),
    ("maxItems", .maxItems),
    ("maxLength", .maxLength),
    ("minItems", .minItems),
    ("minLength", .minLength),
    ("pattern", .pattern),
    ("patternProperties", .patternProperties),
    ("uniqueItems", .uniqueItems)]

/-- The keywords of the third draft. -/
def rules3 : Rules :=
  everywhere ++ rulesOf [
    ("additionalItems", .additionalItems),
    ("dependencies", .dependenciesOrName),
    ("disallow", .disallow),
    ("divisibleBy", .multipleOf),
    ("extends", .extension),
    ("items", .itemsOrTupleStrict),
    ("maximum", .flaggedMaximum),
    ("minimum", .flaggedMinimum),
    ("properties", .propertiesWithRequired),
    ("type", .typeOrSchema)]

/-- The keywords that mean the same from the fourth draft on. -/
def sinceDraft4 : Rules :=
  everywhere ++ rulesOf [
    ("allOf", .allOf),
    ("anyOf", .anyOf),
    ("maxProperties", .maxProperties),
    ("minProperties", .minProperties),
    ("multipleOf", .multipleOf),
    ("not", .not),
    ("oneOf", .oneOf),
    ("properties", .properties),
    ("required", .required),
    ("type", .type)]

/-- The keywords of the fourth draft. -/
def rules4 : Rules :=
  sinceDraft4 ++ rulesOf [
    ("additionalItems", .additionalItems),
    ("dependencies", .dependencies),
    ("items", .itemsOrTupleStrict),
    ("maximum", .flaggedMaximum),
    ("minimum", .flaggedMinimum)]

/-- The keywords that mean the same from the sixth draft on. -/
def sinceDraft6 : Rules :=
  sinceDraft4 ++ rulesOf [
    ("const", .constant),
    ("exclusiveMaximum", .exclusiveMaximum),
    ("exclusiveMinimum", .exclusiveMinimum),
    ("maximum", .maximum),
    ("minimum", .minimum),
    ("propertyNames", .propertyNames)]

/-- The keywords of the sixth draft. -/
def rules6 : Rules :=
  sinceDraft6 ++ rulesOf [
    ("additionalItems", .additionalItems),
    ("contains", .containsAny),
    ("dependencies", .dependencies),
    ("items", .itemsOrTuple)]

/-- The keywords of the seventh draft. -/
def rules7 : Rules := rules6 ++ rulesOf [("if", .conditional)]

/-- The keywords that mean the same from the draft of 2019 on. -/
def sinceDraft201909 : Rules :=
  sinceDraft6 ++ rulesOf [
    ("contains", .contains),
    ("dependentRequired", .dependentRequired),
    ("dependentSchemas", .dependentSchemas),
    ("if", .conditional),
    ("unevaluatedItems", .unevaluatedItems),
    ("unevaluatedProperties", .unevaluatedProperties)]

/-- The keywords of the draft of 2019. -/
def rules201909 : Rules :=
  sinceDraft201909 ++ rulesOf [
    ("$recursiveRef", .recursiveReference),
    ("additionalItems", .additionalItems),
    ("items", .itemsOrTuple)]

/-- The keywords of the draft of 2020. -/
def rules202012 : Rules :=
  sinceDraft201909 ++ rulesOf [
    ("$dynamicRef", .reference),
    ("items", .restItems),
    ("prefixItems", .prefixItems)]

/-- The keywords of a draft. -/
def rules : Draft → Rules
  | draft3 => rules3
  | draft4 => rules4
  | draft6 => rules6
  | draft7 => rules7
  | draft201909 => rules201909
  | draft202012 => rules202012

/-- The rule of a keyword, if the draft has one. -/
def rule? (draft : Draft) (keyword : Text) : Option Rule := draft.rules.lookup keyword

/-- The documents that the drafts consist of. -/
def documents : List (Draft × Json) :=
  [(draft3, Metaschema.Draft3.language), (draft4, Metaschema.Draft4.language),
    (draft6, Metaschema.Draft6.language), (draft7, Metaschema.Draft7.language)] ++
    Metaschema.Draft201909.documents.map (draft201909, ·) ++
    Metaschema.Draft202012.documents.map (draft202012, ·)

end Draft

end Conform
