import Conform.Schema.Rules.Values

/-! # Rules on the members of objects

Which members an object has to have, which it may have, and what their values and names have to be.
The steps that lead to a violation are added where a rule goes from an object to a member.
-/

namespace Conform.Rules

/-- The members of a value that has to be an object. -/
def membersOf : Json → Except Fault Members
  | .obj members => .ok members
  | _ => .error .notAnObject

/-- The texts that a value holds. -/
def textsOf (value : Json) : Except Fault (List Text) := do
  (← heldBy value).mapM fun
    | .str text => .ok text
    | _ => .error .wrongKind

/-- Whether a member is there. -/
def has (members : Members) (key : Text) : Bool := (members.lookup key).isSome

/-- Whether a member is there under a value: only a text names one, and an array or an object cannot
even be looked for. -/
def hasUnder (members : Members) : Json → Except Fault Bool
  | .str key => .ok (has members key)
  | .arr _ => .error .wrongKind
  | .obj _ => .error .wrongKind
  | _ => .ok false

/-- Every member that a list names is there. -/
def present (brief : Bool) (members : Members) (cause : Json → Cause) (names : Json) : Report :=
  .ofExcept do
    return .each brief (fun key =>
      .ofExcept do return .ensure (← hasUnder members key) (cause key)) (← heldBy names)

/-- The members that a schema names meet the schemas given for them. -/
def properties (judge : Judge) (scope : Scope) (brief : Bool) (value found : Json) : Report :=
  match found with
  | .obj members =>
    .ofExcept do
      let schemas ← membersOf value
      return .each brief (fun (key, schema) =>
        match members.lookup key with
        | some item => judge.reportIn scope brief (.key key) item schema
        | none => .clean) schemas
  | _ => .clean

/-- Whether the schema of a property requires it. -/
def requiresItself (schema : Json) : Except Fault Bool :=
  match schema with
  | .obj members => .ok (flagged members "required")
  | _ => .error .notAnObject

/-- Like `properties`, and the properties that their own schemas require are there. -/
def propertiesWithRequired (judge : Judge) (scope : Scope) (brief : Bool) (value found : Json) :
    Report :=
  match found with
  | .obj members =>
    .ofExcept do
      let schemas ← membersOf value
      return .each brief (fun (key, schema) =>
        match members.lookup key with
        | some item => judge.reportIn scope brief (.key key) item schema
        | none =>
          .ofExcept do
            if ← requiresItself schema then
              return (Report.violation (.missing (.str key))).within (.key key)
            return .clean) schemas
  | _ => .clean

/-- The members whose names match a pattern meet the schema given for it. -/
def patternProperties (judge : Judge) (scope : Scope) (brief : Bool) (value found : Json) :
    Report :=
  match found with
  | .obj members =>
    .ofExcept do
      let schemas ← membersOf value
      return .each brief (fun (pattern, schema) =>
        if members.isEmpty then .clean
        else
          .ofExcept do
            let finder ← readPattern pattern
            return .each brief (fun (key, item) =>
              .ofExcept do
                if ← findIn finder key then
                  return judge.reportIn scope brief (.key key) item schema
                return .clean) members) schemas
  | _ => .clean

/-- The keys under a member of a schema, if it holds an object. -/
def keysUnder (schema : Members) (keyword : String) : List Text :=
  match schema.lookup (Text.ofString keyword) with
  | some (.obj members) => members.map (·.1)
  | _ => []

/-- The texts that a member of a schema holds; none without the member. -/
def textsUnder (schema : Members) (keyword : String) : Except Fault (List Text) :=
  match schema.lookup (Text.ofString keyword) with
  | some value => textsOf value
  | none => .ok []

/-- Whether a key is among those that a value names: the keys of an object, the items of an array,
the parts of a text. -/
def names (value : Json) (key : Text) : Except Fault Bool :=
  match value with
  | .obj members => .ok (has members key)
  | .arr items => .ok (items.any (Json.same (.str key)))
  | .str s => .ok (Text.holds key s)
  | _ => .error .wrongKind

/-- The bar between alternatives of a pattern. -/
def bar : Text := Text.ofString "|"

/-- The keys that neither `properties` names nor a pattern of `patternProperties` matches. The
patterns count as one pattern with alternatives. -/
def extraKeys (schema : Members) (members : Members) : Except Fault (List Text) := do
  let joined := Text.join bar (← textsUnder schema "patternProperties")
  let named := (schema.lookup (Text.ofString "properties")).getD (.obj [])
  let unnamed ← (members.map (·.1)).filterM fun key => do return !(← names named key)
  if joined.isEmpty || unnamed.isEmpty then return unnamed
  let finder ← readPattern joined
  unnamed.filterM fun key => do return !(← findIn finder key)

/-- Texts in order. -/
def sorted (texts : List Text) : List Text := texts.mergeSort fun s t => !Text.before t s

/-- Further members are not there, or meet a schema. -/
def additionalProperties (judge : Judge) (scope : Scope) (brief : Bool) (schema : Members)
    (value found : Json) : Report :=
  match found with
  | .obj members =>
    .ofExcept do
      let extras ← extraKeys schema members
      match value with
      | .obj _ =>
        return .each brief (fun key =>
          match members.lookup key with
          | some item => judge.reportIn scope brief (.key key) item value
          | none => .clean) extras
      | _ =>
        if value.affirms || extras.isEmpty then return .clean
        else if has schema (Text.ofString "patternProperties") then
          return .violation (.unmatchedProperties (sorted extras)
            (sorted (← textsUnder schema "patternProperties")))
        else return .violation (.moreProperties (sorted extras))
  | _ => .clean

/-- The names of the members meet a schema. -/
def propertyNames (judge : Judge) (scope : Scope) (brief : Bool) (value found : Json) : Report :=
  match found with
  | .obj members => .each brief (fun (key, _) => judge.report scope brief (.str key) value) members
  | _ => .clean

/-- Certain members are there. -/
def required (brief : Bool) (value found : Json) : Report :=
  match found with
  | .obj members => present brief members .missing value
  | _ => .clean

/-- The members that another member depends on are there. -/
def dependency (brief : Bool) (members : Members) (of : Text) (keys : Json) : Report :=
  present brief members (.missingDependency · of) keys

/-- Where certain members are there, so are those they depend on. -/
def dependentRequired (brief : Bool) (value found : Json) : Report :=
  match found with
  | .obj members =>
    .ofExcept do
      let dependencies ← membersOf value
      return .each brief (fun (key, names) =>
        if has members key then dependency brief members key names else .clean) dependencies
  | _ => .clean

/-- Where certain members are there, the object meets further schemas. -/
def dependentSchemas (judge : Judge) (scope : Scope) (brief : Bool) (value found : Json) : Report :=
  match found with
  | .obj members =>
    .ofExcept do
      let dependencies ← membersOf value
      return .each brief (fun (key, schema) =>
        if has members key then judge.report scope brief found schema else .clean) dependencies
  | _ => .clean

/-- What a member depends on: other members, or a schema for the object. -/
def dependencies (judge : Judge) (scope : Scope) (brief : Bool) (value found : Json) : Report :=
  match found with
  | .obj members =>
    .ofExcept do
      let dependencies ← membersOf value
      return .each brief (fun (key, demand) =>
        if has members key then
          match demand with
          | .arr _ => dependency brief members key demand
          | _ => judge.report scope brief found demand
        else .clean) dependencies
  | _ => .clean

/-- Like `dependencies`, where one name may stand for a list of one. -/
def dependenciesOrName (judge : Judge) (scope : Scope) (brief : Bool) (value found : Json) :
    Report :=
  match found with
  | .obj members =>
    .ofExcept do
      let dependencies ← membersOf value
      return .each brief (fun (key, demand) =>
        if has members key then
          match demand with
          | .obj _ => judge.report scope brief found demand
          | .str name => dependency brief members key (.arr [.str name])
          | _ => dependency brief members key demand
        else .clean) dependencies
  | _ => .clean

end Conform.Rules
