import Conform.Schema.Rules.Values

/-! # Rules that combine schemas

References, alternatives, negation and conditions: what a value has to be is said by other schemas,
which look at the same value.
-/

namespace Conform.Rules

/-- The value meets the schema that a reference leads to. -/
def reference (judge : Judge) (scope : Scope) (brief : Bool) (value found : Json) : Report :=
  match value with
  | .str target =>
    match scope.lookup target with
    | .ok (schema, scope) => judge.reportAt scope brief found schema
    | .error fault => .failed fault.ofReference
  | _ => .failed .notAnObject

/-- The value meets the outermost schema of the schema's own language. -/
def recursiveReference (judge : Judge) (scope : Scope) (brief : Bool) (found : Json) : Report :=
  .ofExcept do
    let (schema, scope) ← scope.lookupRecursive
    return judge.reportAt scope brief found schema

/-- The value meets every schema of a list. -/
def allOf (judge : Judge) (scope : Scope) (brief : Bool) (value found : Json) : Report :=
  .ofExcept do return .each brief (judge.report scope brief found) (← heldBy value)

/-- What came of trying alternatives one after the other. -/
structure Trial where
  /-- The causes that speak against each of the first alternatives, with the number under which the
  alternative is listed. -/
  refused : List (Nat × List Cause)
  /-- The first alternative that the value meets, and the alternatives behind it. -/
  met : Option (Json × List Json)

/-- The number under which an alternative is listed. The schema `false` names no place of its own
and is listed first. -/
def listedUnder (index : Nat) : Json → Nat
  | .bool false => 0
  | _ => index

/-- Tries alternatives until one is met. -/
def tryEach (judge : Judge) (scope : Scope) (found : Json) (index : Nat) :
    List Json → Except Fault Trial
  | [] => .ok ⟨[], none⟩
  | schema :: rest => do
    let violations ← (judge.report scope false found schema).all
    if violations.isEmpty then return ⟨[], some (schema, rest)⟩
    let trial ← tryEach judge scope found (index + 1) rest
    return { trial with
      refused := (listedUnder index schema, violations.map Violation.cause) :: trial.refused }

/-- The causes by alternative. Those that are listed under zero are one alternative. -/
def Trial.alternatives (trial : Trial) : List (List Cause) :=
  let (first, others) := trial.refused.partition (·.1 == 0)
  let first := first.flatMap (·.2)
  if first.isEmpty then others.map (·.2) else first :: others.map (·.2)

/-- No alternative is met. -/
def noAlternative (found : Json) (trial : Trial) : Report :=
  ⟨[⟨[], .noAlternative found, trial.alternatives⟩], none⟩

/-- The value meets one of several schemas. -/
def anyOf (judge : Judge) (scope : Scope) (value found : Json) : Report :=
  .ofExcept do
    let trial ← tryEach judge scope found 0 (← heldBy value)
    match trial.met with
    | some _ => return .clean
    | none => return noAlternative found trial

/-- The schemas that a value meets. -/
def accepting (judge : Judge) (scope : Scope) (found : Json) : List Json → Except Fault (List Json)
  | [] => .ok []
  | schema :: rest => do
    let met ← judge.accepts scope found schema
    let others ← accepting judge scope found rest
    return if met then schema :: others else others

/-- The value meets one of several schemas, and no further one. -/
def oneOf (judge : Judge) (scope : Scope) (value found : Json) : Report :=
  .ofExcept do
    let trial ← tryEach judge scope found 0 (← heldBy value)
    match trial.met with
    | none => return noAlternative found trial
    | some (first, rest) =>
      let further ← accepting judge scope found rest
      if further.isEmpty then return .clean
      return .violation (.severalAlternatives found (further ++ [first]))

/-- The value does not meet a schema. -/
def not (judge : Judge) (scope : Scope) (value found : Json) : Report :=
  .ofExcept do return .ensure (!(← judge.accepts scope found value)) (.excluded found value)

/-- The value meets the schema under a keyword, if there is one. -/
def branch (judge : Judge) (scope : Scope) (brief : Bool) (schema : Members) (keyword : String)
    (found : Json) : Report :=
  match schema.lookup (Text.ofString keyword) with
  | some inner => judge.report scope brief found inner
  | none => .clean

/-- Depending on whether the value meets a schema, it meets one of two others. -/
def conditional (judge : Judge) (scope : Scope) (brief : Bool) (schema : Members)
    (value found : Json) : Report :=
  .ofExcept do
    let keyword := if ← judge.accepts scope found value then "then" else "else"
    return branch judge scope brief schema keyword found

/-- Whether a value has one of several types, of which some may be schemas. -/
def hasTypeOrMeets (judge : Judge) (scope : Scope) (found : Json) : List Json → Except Fault Bool
  | [] => .ok false
  | type :: rest => do
    let holds ←
      match type with
      | .obj _ => do pure (← (judge.report scope false found type).all).isEmpty
      | _ =>
        if type.same (Json.ofString "any") then pure true
        else hasType scope.draft found type
    if holds then return true else hasTypeOrMeets judge scope found rest

/-- The value has one of several types, or meets one of the schemas among them. -/
def typeOrSchema (judge : Judge) (scope : Scope) (value found : Json) : Report :=
  .ofExcept do
    let types ← listOf value
    return .ensure (← hasTypeOrMeets judge scope found types) (.wrongType found types)

/-- A schema that demands one type. -/
def onlyType (type : Json) : Json := Json.record [("type", .arr [type])]

/-- The value has none of several types. -/
def disallow (judge : Judge) (scope : Scope) (brief : Bool) (value found : Json) : Report :=
  .ofExcept do
    let types ← listOf value
    return .each brief (fun type =>
      .ofExcept do
        let met ← judge.accepts scope found (onlyType type)
        return .ensure (!met) (.disallowed found type)) types

/-- The value meets a schema, or every schema of a list. -/
def extension (judge : Judge) (scope : Scope) (brief : Bool) (value found : Json) : Report :=
  match value with
  | .obj _ => judge.report scope brief found value
  | _ => allOf judge scope brief value found

end Conform.Rules
