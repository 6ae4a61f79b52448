import Conform.Schema.Rules.Values

/-! # Rules on the items of arrays

What the items have to be, one by one or all alike, and how many of them fit a schema. The steps
that lead to a violation are added where a rule goes from an array to an item.
-/

namespace Conform.Rules

/-- Values with their indices from a first one on. -/
def indexed (first : Nat) : List Json → List (Nat × Json)
  | [] => []
  | item :: rest => (first, item) :: indexed (first + 1) rest

/-- Several items meet the same schema. -/
def allItems (judge : Judge) (scope : Scope) (brief : Bool) (schema : Json)
    (items : List (Nat × Json)) : Report :=
  .each brief (fun (index, item) => judge.reportIn scope brief (.index index) item schema) items

/-- The first items meet schemas one by one. -/
def eachItem (judge : Judge) (scope : Scope) (brief : Bool) (schemas : List Json)
    (items : List (Nat × Json)) : Report :=
  .each brief (fun ((index, item), schema) =>
    judge.reportIn scope brief (.index index) item schema) (items.zip schemas)

/-- The first items meet the schemas of a list. -/
def prefixItems (judge : Judge) (scope : Scope) (brief : Bool) (value found : Json) : Report :=
  match found with
  | .arr items =>
    .ofExcept do return eachItem judge scope brief (← heldBy value) (indexed 0 items)
  | _ => .clean

/-- How many things a member of a schema holds; none without the member. -/
def countUnder (schema : Members) (keyword : String) : Except Fault Nat :=
  match schema.lookup (Text.ofString keyword) with
  | none => .ok 0
  | some value => (heldBy value).map List.length

/-- The items behind the first ones meet a schema, or there are none. -/
def restItems (judge : Judge) (scope : Scope) (brief : Bool) (schema : Members)
    (value found : Json) : Report :=
  match found with
  | .arr items =>
    .ofExcept do
      let count ← countUnder schema "prefixItems"
      let rest := items.drop count
      if rest.isEmpty then return .clean
      match value with
      | .bool false => return .violation (.itemsBeyond count rest)
      | _ => return allItems judge scope brief value (indexed count rest)
  | _ => .clean

/-- All items meet a schema, or the first items meet the schemas of a list. -/
def itemsOrTuple (judge : Judge) (scope : Scope) (brief : Bool) (value found : Json) : Report :=
  match found with
  | .arr items =>
    match value with
    | .arr schemas => eachItem judge scope brief schemas (indexed 0 items)
    | _ => allItems judge scope brief value (indexed 0 items)
  | _ => .clean

/-- Like `itemsOrTuple`, where a single schema has to be an object. -/
def itemsOrTupleStrict (judge : Judge) (scope : Scope) (brief : Bool) (value found : Json) :
    Report :=
  match found with
  | .arr items =>
    match value with
    | .obj _ => allItems judge scope brief value (indexed 0 items)
    | _ => .ofExcept do return eachItem judge scope brief (← heldBy value) (indexed 0 items)
  | _ => .clean

/-- Where `items` is a list, the items behind it meet a schema, or there are none. -/
def additionalItems (judge : Judge) (scope : Scope) (brief : Bool) (schema : Members)
    (value found : Json) : Report :=
  match found with
  | .arr items =>
    match schema.lookup itemsKeyword with
    | none => .clean
    | some (.obj _) => .clean
    | some _ =>
      .ofExcept do
        let count ← countUnder schema "items"
        let rest := items.drop count
        match value with
        | .obj _ => return allItems judge scope brief value (indexed count rest)
        | _ =>
          if value.affirms || rest.isEmpty then return .clean
          else return .violation (.moreItems rest)
  | _ => .clean

/-- Whether a count is less than a limit. -/
def isLess (count : Nat) (limit : Json) : Except Fault Bool :=
  match limit.ordinal? with
  | some n => .ok ((Number.int count).lt n)
  | none => .error .wrongKind

/-- Whether a count is more than a limit. -/
def isMore (count : Nat) (limit : Json) : Except Fault Bool :=
  match limit.ordinal? with
  | some n => .ok (n.lt (.int count))
  | none => .error .wrongKind

/-- Counts the items that meet a schema, up to the first that is more than the limit, and says
whether there was one. -/
def countAccepted (judge : Judge) (scope : Scope) (schema limit : Json) (count : Nat) :
    List Json → Except Fault (Nat × Bool)
  | [] => .ok (count, false)
  | item :: rest => do
    if ← judge.accepts scope item schema then
      if ← isMore (count + 1) limit then return (count + 1, true)
      countAccepted judge scope schema limit (count + 1) rest
    else countAccepted judge scope schema limit count rest

/-- The number of items that meet a schema lies between two limits, of which the lower is one unless
the schema gives another. -/
def contains (judge : Judge) (scope : Scope) (schema : Members) (value found : Json) : Report :=
  match found with
  | .arr items =>
    .ofExcept do
      let least := (schema.lookup (Text.ofString "minContains")).getD (Json.ofInt 1)
      let most := (schema.lookup (Text.ofString "maxContains")).getD (Json.ofInt items.length)
      let _ ← Scope.draftOf scope.draft value
      let (count, exceeds) ← countAccepted judge scope value most 0 items
      if exceeds then return .violation (.tooManyContained most)
      if ← isLess count least then
        if count = 0 then return .violation (.nothingContained found)
        return .violation (.tooFewContained least count)
      return .clean
  | _ => .clean

/-- At least one item meets a schema. -/
def containsAny (judge : Judge) (scope : Scope) (value found : Json) : Report :=
  match found with
  | .arr items =>
    .ofExcept do
      let any ← anyOk (fun item => judge.accepts scope item value) items
      return .ensure any (.noneFits found)
  | _ => .clean

end Conform.Rules
