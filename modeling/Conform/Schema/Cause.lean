import Conform.Json.Display
import Conform.Json.Pointer

/-! # Causes and failures

A violation says where in a value a schema is not met and what the cause is. A failure is the form
in which a violation is reported: a pointer, a message, and the messages of the alternatives that
were tried.
-/

namespace Conform

/-- What is counted. -/
inductive Count
  | characters
  | items
  | members
  deriving DecidableEq, Repr

/-- Why a value does not meet a schema. -/
inductive Cause
  | nothingAllowed (found : Json)
  | wrongType (found : Json) (names : List Json)
  | notListed (found options : Json)
  | notConstant (wanted : Json)
  | below (found limit : Json)
  | above (found limit : Json)
  | notAbove (found limit : Json)
  | notBelow (found limit : Json)
  | notMultiple (found unit : Json)
  | mismatch (found pattern : Json)
  | wrongFormat (found format : Json)
  | tooFew (found : Json) (count : Count) (limit : Number)
  | tooMany (found : Json) (count : Count) (limit : Number)
  | repeatedItems (found : Json)
  | itemsBeyond (allowed : Nat) (rest : List Json)
  | moreItems (rest : List Json)
  | nothingContained (found : Json)
  | noneFits (found : Json)
  | tooManyContained (limit : Json)
  | tooFewContained (limit : Json) (matched : Nat)
  | missing (key : Json)
  | moreProperties (keys : List Text)
  | unmatchedProperties (keys patterns : List Text)
  | missingDependency (key : Json) (of : Text)
  | noAlternative (found : Json)
  | severalAlternatives (found : Json) (schemas : List Json)
  | excluded (found schema : Json)
  | disallowed (found type : Json)
  | unevaluatedItems (rest : List Json)
  | unevaluatedProperties (keys : List Text)
  | invalidProperties (keys : List Text)

namespace Cause

/-- Several texts with commas between them. -/
def listing (texts : List String) : String := ", ".intercalate texts

/-- Several values with commas between them. -/
def values (found : List Json) : String := listing (found.map Json.display)

/-- Several keys with commas between them. -/
def keysText (keys : List Text) : String := listing (keys.map Text.quoted)

/-- The verb for a number of subjects. -/
def verb (count : Nat) (one more : String) : String := if count = 1 then one else more

/-- Things that were not expected. -/
def unexpected (listed : String) (count : Nat) : String :=
  "(" ++ listed ++ " " ++ verb count "was" "were" ++ " unexpected)"

/-- The type of a schema that stands in a list of types is shown by its name. -/
def typeText (type : Json) : String :=
  match type.member? (Text.ofString "name") with
  | some name => name.display
  | none => type.display

/-- What is wrong with a value that has too few of something. -/
def tooFewText (count : Count) (limit : Number) : String :=
  if limit.eq (.int 1) then "should be non-empty"
  else
    match count with
    | .members => "does not have enough properties"
    | _ => "is too short"

/-- What is wrong with a value that has too many of something. -/
def tooManyText (count : Count) (limit : Number) : String :=
  if limit.eq (.int 0) then "is expected to be empty"
  else
    match count with
    | .members => "has too many properties"
    | _ => "is too long"

/-- The wording of a cause. -/
def message : Cause → String
  | nothingAllowed found => "False schema does not allow " ++ found.display
  | wrongType found names =>
    found.display ++ " is not of type " ++ listing (names.map typeText)
  | notListed found options => found.display ++ " is not one of " ++ options.display
  | notConstant wanted => wanted.display ++ " was expected"
  | below found limit => found.display ++ " is less than the minimum of " ++ limit.display
  | above found limit => found.display ++ " is greater than the maximum of " ++ limit.display
  | notAbove found limit =>
    found.display ++ " is less than or equal to the minimum of " ++ limit.display
  | notBelow found limit =>
    found.display ++ " is greater than or equal to the maximum of " ++ limit.display
  | notMultiple found unit => found.display ++ " is not a multiple of " ++ unit.display
  | mismatch found pattern => found.display ++ " does not match " ++ pattern.display
  | wrongFormat found format => found.display ++ " is not a " ++ format.display
  | tooFew found count limit => found.display ++ " " ++ tooFewText count limit
  | tooMany found count limit => found.display ++ " " ++ tooManyText count limit
  | repeatedItems found => found.display ++ " has non-unique elements"
  | itemsBeyond allowed rest =>
    let shown :=
      match rest with
      | [item] => item.display
      | _ => (Json.arr rest).display
    "Expected at most " ++ toString allowed ++ " " ++ verb allowed "item" "items" ++
      " but found " ++ toString rest.length ++ " extra: " ++ shown
  | moreItems rest =>
    "Additional items are not allowed " ++ unexpected (values rest) rest.length
  | nothingContained found =>
    found.display ++ " does not contain items matching the given schema"
  | noneFits found => "None of " ++ found.display ++ " are valid under the given schema"
  | tooManyContained limit =>
    "Too many items match the given schema (expected at most " ++ limit.display ++ ")"
  | tooFewContained limit matched =>
    "Too few items match the given schema (expected at least " ++ limit.display ++ " but only " ++
      toString matched ++ " matched)"
  | missing key => key.display ++ " is a required property"
  | moreProperties keys =>
    "Additional properties are not allowed " ++ unexpected (keysText keys) keys.length
  | unmatchedProperties keys patterns =>
    keysText keys ++ " " ++ verb keys.length "does" "do" ++ " not match any of the regexes: " ++
      keysText patterns
  | missingDependency key of => key.display ++ " is a dependency of " ++ Text.quoted of
  | noAlternative found => found.display ++ " is not valid under any of the given schemas"
  | severalAlternatives found schemas =>
    found.display ++ " is valid under each of " ++ values schemas
  | excluded found schema => found.display ++ " should not be valid under " ++ schema.display
  | disallowed found type => type.display ++ " is disallowed for " ++ found.display
  | unevaluatedItems rest =>
    "Unevaluated items are not allowed " ++ unexpected (values rest) rest.length
  | unevaluatedProperties keys =>
    "Unevaluated properties are not allowed " ++ unexpected (keysText keys) keys.length
  | invalidProperties keys =>
    "Unevaluated properties are not valid under the given schema (" ++ keysText keys ++ " " ++
      verb keys.length "was" "were" ++ " unevaluated and invalid)"

end Cause

/-- A place where a schema is not met. -/
structure Violation where
  /-- The steps that lead to the place. -/
  path : List Step
  /-- The cause. -/
  cause : Cause
  /-- The causes in each of the alternatives that were tried. -/
  alternatives : List (List Cause)

/-- A violation as it is reported. -/
structure Failure where
  /-- The pointer to the place. -/
  pointer : Text
  /-- The message. -/
  message : String
  /-- The messages of each of the alternatives that were tried. -/
  alternatives : List (List String)
  deriving DecidableEq, Repr

/-- The report of a violation. -/
def Violation.toFailure (v : Violation) : Failure :=
  ⟨Pointer.ofPath v.path, v.cause.message, v.alternatives.map (·.map Cause.message)⟩

namespace Failure

/-- The lines of an alternative. -/
def branchText (messages : List String) : String :=
  "".intercalate (messages.map ("\n\t" ++ ·))

/-- The whole text of a failure: the message, and the alternatives with `or` between them. -/
def text (f : Failure) : String :=
  f.message ++ "\nor".intercalate (f.alternatives.map branchText)

end Failure

end Conform
