import Conform.Schema.Evaluation

/-! # Validating documents

A schema is checked against the language of its draft before it is used. The first violation of the
language makes it unusable; the violations of a usable schema are what is reported of a document.
-/

namespace Conform

/-- Why a document was not validated. -/
inductive Refusal
  /-- The schema is no schema. -/
  | unusable (reason : String)
  /-- The evaluation ended with a fault. -/
  | fault (fault : Fault)

namespace Schema

/-- The name of the kind of a value. -/
def kindName : Json → String
  | .null => "NoneType"
  | .bool _ => "bool"
  | .num (.int _) => "int"
  | .num (.real _) => "float"
  | .str _ => "str"
  | .arr _ => "list"
  | .obj _ => "dict"

/-- Whether a value has the form of a schema. -/
def isSchema : Json → Bool
  | .bool _ => true
  | .obj _ => true
  | _ => false

/-- The report on a value under a schema that stands on its own. -/
def report (draft : Draft) (checksFormats brief : Bool) (found schema : Json) : Report :=
  .ofExcept do
    let scope ← Scope.root draft checksFormats schema
    return Judge.standard.apply draft scope brief found schema

/-- The first violation of the draft's language by a schema. -/
def firstDefect? (draft : Draft) (schema : Json) : Except Fault (Option Violation) :=
  (report draft true true schema draft.language).first?

/-- The violations of a schema by a value, in order. -/
def violations (schema found : Json) : Except Refusal (List Violation) :=
  if isSchema schema then
    match Scope.draftOf Draft.latest schema with
    | .error fault => .error (.fault fault)
    | .ok draft =>
      match firstDefect? draft schema with
      | .error fault => .error (.fault fault)
      | .ok (some defect) => .error (.unusable defect.cause.message)
      | .ok none =>
        match (report draft false false found schema).all with
        | .error fault => .error (.fault fault)
        | .ok violations => .ok violations
  else .error (.unusable ("expected an object or boolean, got " ++ kindName schema))

/-- The failures of a value under a schema, in order. -/
def validate (schema found : Json) : Except Refusal (List Failure) :=
  (violations schema found).map (·.map Violation.toFailure)

end Schema

end Conform
