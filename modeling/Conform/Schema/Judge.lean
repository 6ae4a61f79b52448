import Conform.Schema.Report
import Conform.Schema.Scope

/-! # Judges

The rule of a keyword looks into a schema through a judge, which answers for the schemas inside. A
rule that is given a judge is an ordinary function, and what holds of the judge's answers can be
carried over to those of the rule.
-/

namespace Conform

/-- The members of an object. -/
abbrev Members := List (Text × Json)

/-- The draft whose rules say which parts a schema evaluates. They stay those of the schema that asks,
whatever the drafts of the schemas inside it are. -/
inductive Gathering
  | of2019
  | of2020
  deriving DecidableEq, Repr

/-- The answers that a rule may ask for about the schemas inside its own. -/
structure Judge where
  /-- The report on a value under a schema that stands inside the schema looked at. -/
  report : Scope → (brief : Bool) → (found schema : Json) → Report
  /-- The report on a value under a schema that a reference led to, in the scope it led to. -/
  reportAt : Scope → (brief : Bool) → (found schema : Json) → Report
  /-- Whether a value meets a schema that is only tried. -/
  accepts : Scope → (found schema : Json) → Except Fault Bool
  /-- The indices of the items that a schema evaluates. -/
  evaluatedItems : Gathering → Scope → (items : List Json) → (schema : Json) →
    Except Fault (List Nat)
  /-- The keys of the members that a schema evaluates. -/
  evaluatedKeys : Gathering → Scope → (members : Members) → (schema : Json) →
    Except Fault (List Text)

namespace Judge

/-- The judge that answers nothing, because schemas lead too deep. -/
def tooDeep : Judge where
  report _ _ _ _ := .failed .tooDeep
  reportAt _ _ _ _ := .failed .tooDeep
  accepts _ _ _ := .error .tooDeep
  evaluatedItems _ _ _ _ := .error .tooDeep
  evaluatedKeys _ _ _ _ := .error .tooDeep

/-- The report on a value inside the value looked at. What the schema `false` says is said of the
value looked at, without the step. -/
def reportIn (judge : Judge) (scope : Scope) (brief : Bool) (step : Step) (found schema : Json) :
    Report :=
  match schema with
  | .bool false => .violation (.nothingAllowed found)
  | _ => (judge.report scope brief found schema).within step

end Judge

end Conform
