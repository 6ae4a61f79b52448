import Conform.Schema.Rules.Combined
import Conform.Schema.Rules.Evaluated

/-! # Evaluating schemas

`Judge.ofDepth` is the judge that follows schemas down to a depth. It applies the rules of a
schema's keywords in the order in which the keywords stand, and gives the rules the judge of one
level less.
-/

namespace Conform

/-- The report of one rule. -/
def Rule.report (judge : Judge) (scope : Scope) (brief : Bool) (schema : Members)
    (value found : Json) : Rule → Report
  | reference => Rules.reference judge scope brief value found
  | recursiveReference => Rules.recursiveReference judge scope brief found
  | type => Rules.type scope.draft value found
  | typeOrSchema => Rules.typeOrSchema judge scope value found
  | enumeration => Rules.enumeration value found
  | constant => Rules.constant value found
  | minimum => Rules.minimum value found
  | maximum => Rules.maximum value found
  | exclusiveMinimum => Rules.exclusiveMinimum value found
  | exclusiveMaximum => Rules.exclusiveMaximum value found
  | flaggedMinimum => Rules.flaggedMinimum schema value found
  | flaggedMaximum => Rules.flaggedMaximum schema value found
  | multipleOf => Rules.multipleOf value found
  | minLength => Rules.atLeast .characters value found
  | maxLength => Rules.atMost .characters value found
  | pattern => Rules.pattern value found
  | format => Rules.format scope.checksFormats value found
  | minItems => Rules.atLeast .items value found
  | maxItems => Rules.atMost .items value found
  | uniqueItems => Rules.uniqueItems value found
  | prefixItems => Rules.prefixItems judge scope brief value found
  | restItems => Rules.restItems judge scope brief schema value found
  | itemsOrTuple => Rules.itemsOrTuple judge scope brief value found
  | itemsOrTupleStrict => Rules.itemsOrTupleStrict judge scope brief value found
  | additionalItems => Rules.additionalItems judge scope brief schema value found
  | contains => Rules.contains judge scope schema value found
  | containsAny => Rules.containsAny judge scope value found
  | unevaluatedItems => Rules.unevaluatedItems judge scope schema found
  | properties => Rules.properties judge scope brief value found
  | propertiesWithRequired => Rules.propertiesWithRequired judge scope brief value found
  | patternProperties => Rules.patternProperties judge scope brief value found
  | additionalProperties => Rules.additionalProperties judge scope brief schema value found
  | propertyNames => Rules.propertyNames judge scope brief value found
  | unevaluatedProperties => Rules.unevaluatedProperties judge scope schema value found
  | required => Rules.required brief value found
  | minProperties => Rules.atLeast .members value found
  | maxProperties => Rules.atMost .members value found
  | dependentRequired => Rules.dependentRequired brief value found
  | dependentSchemas => Rules.dependentSchemas judge scope brief value found
  | dependencies => Rules.dependencies judge scope brief value found
  | dependenciesOrName => Rules.dependenciesOrName judge scope brief value found
  | allOf => Rules.allOf judge scope brief value found
  | anyOf => Rules.anyOf judge scope value found
  | oneOf => Rules.oneOf judge scope value found
  | not => Rules.not judge scope value found
  | conditional => Rules.conditional judge scope brief schema value found
  | disallow => Rules.disallow judge scope brief value found
  | extension => Rules.extension judge scope brief value found

/-- The members of a schema that count: in early drafts a reference stands alone. -/
def Draft.applicable (draft : Draft) (schema : Members) : Members :=
  if draft.refersAlone then
    match schema.lookup referenceKeyword with
    | none => schema
    | some .null => schema
    | some target => [(referenceKeyword, target)]
  else schema

namespace Judge

/-- The report of the rules of a schema. The draft of the schema around it decides which members
count, its own draft what they mean. -/
def apply (judge : Judge) (around : Draft) (scope : Scope) (brief : Bool) (found schema : Json) :
    Report :=
  match schema with
  | .bool true => .clean
  | .bool false => .violation (.nothingAllowed found)
  | .obj members =>
    .each brief (fun (keyword, value) =>
      match scope.draft.rule? keyword with
      | some rule => rule.report judge scope brief members value found
      | none => .clean) (around.applicable members)
  | _ => .failed .notAnObject

/-- The report on a value under a schema, in the scope that belongs to the schema. -/
def reportAs (judge : Judge) (scope : Scope) (brief : Bool) (found schema : Json) : Report :=
  .ofExcept do
    let draft ← Scope.draftOf scope.draft schema
    return judge.apply scope.draft { scope with draft } brief found schema

/-- The report on a value under a schema inside another one. -/
def reportInside (judge : Judge) (scope : Scope) (brief : Bool) (found schema : Json) : Report :=
  match schema with
  | .bool _ => judge.apply scope.draft scope brief found schema
  | _ =>
    .ofExcept do
      let inner ← scope.entering ⟨scope.draft, schema⟩
      return judge.reportAs inner brief found schema

/-- Whether a value meets a schema that is only tried. -/
def meets (judge : Judge) (scope : Scope) (found schema : Json) : Except Fault Bool := do
  let draft ← Scope.draftOf scope.draft schema
  (judge.apply draft { scope with draft } true found schema).accepts

/-- The judge that follows schemas down to a depth. -/
def ofDepth : Nat → Judge
  | 0 => tooDeep
  | depth + 1 =>
    let inner := ofDepth depth
    { report := inner.reportInside
      reportAt := inner.reportAs
      accepts := inner.meets
      evaluatedItems := Rules.evaluatedItems inner
      evaluatedKeys := Rules.evaluatedKeys inner }

/-- Schemas are followed down to this depth. -/
def depthLimit : Nat := 480

/-- The judge that follows schemas as deep as they are ever followed. -/
def standard : Judge := ofDepth depthLimit

end Judge

end Conform
