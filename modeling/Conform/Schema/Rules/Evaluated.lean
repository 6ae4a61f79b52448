import Conform.Schema.Rules.Items
import Conform.Schema.Rules.Members

/-! # Evaluated parts

Some keywords speak of the items and members that no other keyword of the schema has evaluated.
Which parts a schema evaluates is gathered from the schema, from the schemas it refers to and from
the alternatives that the value meets. The drafts of 2019 and 2020 differ in what they gather.
-/

namespace Conform.Rules

/-- A member of a schema. -/
def under (schema : Members) (keyword : String) : Option Json :=
  schema.lookup (Text.ofString keyword)

/-- The indices below a number. -/
def below (count : Nat) : List Nat := List.range count

/-- What several things contribute, one after the other. -/
def gather {α β : Type} (of : α → Except Fault (List β)) : List α → Except Fault (List β)
  | [] => .ok []
  | a :: rest => do
    let first ← of a
    let others ← gather of rest
    return first ++ others

/-- What the target of a reference contributes. -/
def fromReference {β : Type} (scope : Scope) (of : Scope → Json → Except Fault (List β)) :
    Option Json → Except Fault (List β)
  | none => .ok []
  | some .null => .ok []
  | some (.str target) => do
    let (schema, scope) ← scope.lookup target
    of { scope with draft := ← Scope.draftOf scope.draft schema } schema
  | some _ => .error .notAnObject

/-- What the outermost schema of the schema's own language contributes. -/
def fromRecursive {β : Type} (scope : Scope) (of : Scope → Json → Except Fault (List β)) :
    Option Json → Except Fault (List β)
  | none => .ok []
  | some _ => do
    let (schema, scope) ← scope.lookupRecursive
    of { scope with draft := ← Scope.draftOf scope.draft schema } schema

/-- What a condition contributes: the condition and one branch, or the other branch. -/
def fromCondition {β : Type} (judge : Judge) (scope : Scope) (found : Json) (schema : Members)
    (of : Json → Except Fault (List β)) : Except Fault (List β) :=
  match under schema "if" with
  | none => .ok []
  | some condition => do
    if ← judge.accepts scope found condition then
      gather of (condition :: (under schema "then").toList)
    else gather of (under schema "else").toList

/-- What the alternatives contribute that the value meets. -/
def fromAlternatives {β : Type} (judge : Judge) (scope : Scope) (found : Json) (schema : Members)
    (of : Json → Except Fault (List β)) : Except Fault (List β) :=
  gather (fun keyword =>
    match under schema keyword with
    | none => .ok []
    | some schemas => do
      gather (fun inner => do
        if ← (judge.report scope true found inner).accepts then of inner else return [])
        (← heldBy schemas)) ["allOf", "oneOf", "anyOf"]

/-- The items that meet the schema under one of two keywords. -/
def fromContained (judge : Judge) (scope : Scope) (items : List Json) (schema : Members) :
    Except Fault (List Nat) :=
  gather (fun keyword =>
    match under schema keyword with
    | none => .ok []
    | some inner =>
      gather (fun (index, item) => do
        return if ← judge.accepts scope item inner then [index] else []) (indexed 0 items))
    ["contains", "unevaluatedItems"]

/-- The items that a schema of the draft of 2020 evaluates. -/
def items202012 (judge : Judge) (scope : Scope) (items : List Json) (schema : Members) :
    Except Fault (List Nat) := do
  if (under schema "items").isSome then return below items.length
  let of (scope : Scope) (inner : Json) : Except Fault (List Nat) :=
    judge.evaluatedItems .of2020 scope items inner
  let found := Json.arr items
  let referred ← fromReference scope of (under schema "$ref")
  let dynamic ← fromReference scope of (under schema "$dynamicRef")
  let first := below (← countUnder schema "prefixItems")
  let condition ← fromCondition judge scope found schema (of scope)
  let contained ← fromContained judge scope items schema
  let alternatives ← fromAlternatives judge scope found schema (of scope)
  return referred ++ dynamic ++ first ++ condition ++ contained ++ alternatives

/-- The items that `items` evaluates in the draft of 2019, or nothing if these are all items. -/
def itemsFromItems (schema : Members) : Except Fault (Option (List Nat)) :=
  match under schema "items" with
  | none => .ok (some [])
  | some value =>
    if (under schema "additionalItems").isSome then .ok none
    else
      match value with
      | .obj _ => .ok none
      | _ => do return some (below (← countUnder schema "items"))

/-- The items that a schema of the draft of 2019 evaluates. -/
def items201909 (judge : Judge) (scope : Scope) (items : List Json) (schema : Members) :
    Except Fault (List Nat) := do
  let of (scope : Scope) (inner : Json) : Except Fault (List Nat) :=
    judge.evaluatedItems .of2019 scope items inner
  let found := Json.arr items
  let referred ← fromReference scope of (under schema "$ref")
  let recursive ← fromRecursive scope of (under schema "$recursiveRef")
  match ← itemsFromItems schema with
  | none => return below items.length
  | some first =>
    let condition ← fromCondition judge scope found schema (of scope)
    let contained ← fromContained judge scope items schema
    let alternatives ← fromAlternatives judge scope found schema (of scope)
    return referred ++ recursive ++ first ++ condition ++ contained ++ alternatives

/-- What is said of the items that something other than a schema evaluates. A list or a text that
holds the name of the keyword `items` evaluates all of them. -/
def strayItems (gathering : Gathering) (items : List Json) (schema : Json) :
    Except Fault (List Nat) :=
  match gathering with
  | .of2019 => .error .notAnObject
  | .of2020 =>
    match schema with
    | .arr held =>
      if held.any (Json.same (.str itemsKeyword)) then .ok (below items.length)
      else .error .notAnObject
    | .str s => if Text.holds itemsKeyword s then .ok (below items.length) else .error .notAnObject
    | _ => .error .wrongKind

/-- The items that a schema evaluates. A schema that is `true` or `false` evaluates none. -/
def evaluatedItems (judge : Judge) (gathering : Gathering) (scope : Scope) (items : List Json)
    (schema : Json) : Except Fault (List Nat) :=
  match schema with
  | .bool _ => .ok []
  | .obj members =>
    match gathering with
    | .of2019 => items201909 judge scope items members
    | .of2020 => items202012 judge scope items members
  | _ => strayItems gathering items schema

/-- The keys of members that match a pattern of `patternProperties`. -/
def fromPatterns (members schema : Members) : Except Fault (List Text) :=
  match under schema "patternProperties" with
  | none => .ok []
  | some patterns =>
    gather (fun (key, _) => do
      gather (fun pattern =>
        match pattern with
        | .str pattern => do
          return if ← findIn (← readPattern pattern) key then [key] else []
        | _ => .error .wrongKind) (← heldBy patterns)) members

/-- What `dependentSchemas` contributes for the members that are there. -/
def fromDependents (members schema : Members) (of : Json → Except Fault (List Text)) :
    Except Fault (List Text) :=
  match under schema "dependentSchemas" with
  | some (.obj dependencies) =>
    gather (fun (key, inner) => if has members key then of inner else .ok []) dependencies
  | some _ => .error .notAnObject
  | none => .ok []

/-- The keys of members whose values meet the schema under one of two keywords. -/
def fromAdditional (judge : Judge) (scope : Scope) (members schema : Members) :
    Except Fault (List Text) :=
  gather (fun keyword =>
    match under schema keyword with
    | none => .ok []
    | some .null => .ok []
    | some inner =>
      gather (fun (key, item) => do
        return if ← (judge.report scope true item inner).accepts then [key] else []) members)
    ["additionalProperties", "unevaluatedProperties"]

/-- The keys that a schema of the draft of 2020 evaluates. -/
def keys202012 (judge : Judge) (scope : Scope) (members schema : Members) :
    Except Fault (List Text) := do
  let of (scope : Scope) (inner : Json) : Except Fault (List Text) :=
    judge.evaluatedKeys .of2020 scope members inner
  let found := Json.obj members
  let referred ← fromReference scope of (under schema "$ref")
  let dynamic ← fromReference scope of (under schema "$dynamicRef")
  let named := keysUnder schema "properties"
  let additional ← fromAdditional judge scope members schema
  let matched ← fromPatterns members schema
  let dependent ← fromDependents members schema (of scope)
  let alternatives ← fromAlternatives judge scope found schema (of scope)
  let condition ← fromCondition judge scope found schema (of scope)
  return referred ++ dynamic ++ named ++ additional ++ matched ++ dependent ++ alternatives ++
    condition

/-- The keys that a keyword of the draft of 2019 names: all if it is `true`, else those of its
object. -/
def keysNamed (members schema : Members) (keyword : String) : List Text :=
  match under schema keyword with
  | some (.bool true) => members.map (·.1)
  | _ => keysUnder schema keyword

/-- The keys that a schema of the draft of 2019 evaluates. -/
def keys201909 (judge : Judge) (scope : Scope) (members schema : Members) :
    Except Fault (List Text) := do
  let of (scope : Scope) (inner : Json) : Except Fault (List Text) :=
    judge.evaluatedKeys .of2019 scope members inner
  let found := Json.obj members
  let referred ← fromReference scope of (under schema "$ref")
  let recursive ← fromRecursive scope of (under schema "$recursiveRef")
  let named := ["properties", "additionalProperties", "unevaluatedProperties"].flatMap
    (keysNamed members schema)
  let matched ← fromPatterns members schema
  let dependent ← fromDependents members schema (of scope)
  let alternatives ← fromAlternatives judge scope found schema (of scope)
  let condition ← fromCondition judge scope found schema (of scope)
  return referred ++ recursive ++ named ++ matched ++ dependent ++ alternatives ++ condition

/-- The keys that a schema evaluates. A schema that is `true` or `false` evaluates none. -/
def evaluatedKeys (judge : Judge) (gathering : Gathering) (scope : Scope) (members : Members)
    (schema : Json) : Except Fault (List Text) :=
  match schema with
  | .bool _ => .ok []
  | .obj keywords =>
    match gathering with
    | .of2019 => keys201909 judge scope members keywords
    | .of2020 => keys202012 judge scope members keywords
  | _ => .error .notAnObject

/-- How the parts that a schema of a draft evaluates are gathered. -/
def gatheringOf (draft : Draft) : Gathering :=
  if draft = .draft201909 then .of2019 else .of2020

/-- Every item is evaluated. -/
def unevaluatedItems (judge : Judge) (scope : Scope) (schema : Members) (found : Json) : Report :=
  match found with
  | .arr items =>
    .ofExcept do
      let evaluated ← evaluatedItems judge (gatheringOf scope.draft) scope items (.obj schema)
      let rest := (indexed 0 items).filter fun (index, _) => !evaluated.contains index
      return .ensure rest.isEmpty (.unevaluatedItems (rest.map (·.2)))
  | _ => .clean

/-- A key, as often as there are violations of a schema by its value. -/
def violating (judge : Judge) (scope : Scope) (schema : Json) (key : Text) (item : Json) :
    Except Fault (List Text) := do
  return (← (judge.report scope false item schema).all).map fun _ => key

/-- Every member that is not evaluated meets a schema. -/
def unevaluatedProperties (judge : Judge) (scope : Scope) (schema : Members) (value found : Json) :
    Report :=
  match found with
  | .obj members =>
    .ofExcept do
      let evaluated ← evaluatedKeys judge (gatheringOf scope.draft) scope members (.obj schema)
      let rest := members.filter fun (key, _) => !evaluated.contains key
      let keys ← gather (fun (key, item) => violating judge scope value key item) rest
      if keys.isEmpty then return .clean
      match value with
      | .bool false => return .violation (.unevaluatedProperties (sorted keys))
      | _ => return .violation (.invalidProperties keys)
  | _ => .clean

end Conform.Rules
