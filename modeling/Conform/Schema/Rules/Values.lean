import Conform.Decimal.Multiple
import Conform.Json.Distinct
import Conform.Pattern.Reader
import Conform.Pattern.Search
import Conform.Schema.Judge

/-! # Rules on single values

Types, constants, limits, lengths, patterns and formats. These rules look at the value itself and
need no other schema.
-/

namespace Conform.Rules

/-- The types that schemas name. -/
inductive TypeName
  | any
  | array
  | boolean
  | integer
  | null
  | number
  | object
  | string
  deriving DecidableEq, Repr

/-- The types by name. -/
def typeNames : List (Text × TypeName) :=
  [("any", TypeName.any), ("array", .array), ("boolean", .boolean), ("integer", .integer),
    ("null", .null), ("number", .number), ("object", .object), ("string", .string)].map
      fun ((name : String), type) => (Text.ofString name, type)

/-- Whether a value has a type. -/
def TypeName.holds (draft : Draft) (found : Json) : TypeName → Bool
  | .any => true
  | .array =>
    match found with
    | .arr _ => true
    | _ => false
  | .boolean =>
    match found with
    | .bool _ => true
    | _ => false
  | .integer =>
    match found with
    | .num (.int _) => true
    | .num (.real x) => draft.admitsIntegralReals && x.isInteger
    | _ => false
  | .null =>
    match found with
    | .null => true
    | _ => false
  | .number => found.number?.isSome
  | .object =>
    match found with
    | .obj _ => true
    | _ => false
  | .string =>
    match found with
    | .str _ => true
    | _ => false

/-- Whether a value has the type of a name. Only the third draft has a type for everything. -/
def hasType (draft : Draft) (found name : Json) : Except Fault Bool :=
  match name with
  | .str name =>
    match typeNames.lookup name with
    | some .any => if draft = .draft3 then .ok true else .error .unknownType
    | some type => .ok (type.holds draft found)
    | none => .error .unknownType
  | .arr _ => .error .wrongKind
  | .obj _ => .error .wrongKind
  | _ => .error .unknownType

/-- What a value holds, for a keyword that goes through it. -/
def heldBy (value : Json) : Except Fault (List Json) :=
  match value.contents? with
  | some held => .ok held
  | none => .error .wrongKind

/-- What a list holds, for which a single name may stand. -/
def listOf : Json → Except Fault (List Json)
  | .str name => .ok [.str name]
  | value => heldBy value

/-- Whether a test succeeds for one of several things; the tests after it are not made. -/
def anyOk {α : Type} (test : α → Except Fault Bool) : List α → Except Fault Bool
  | [] => .ok false
  | a :: rest => do if ← test a then return true else anyOk test rest

/-- The value has one of the types. -/
def type (draft : Draft) (value found : Json) : Report :=
  .ofExcept do
    let names ← listOf value
    return .ensure (← anyOk (hasType draft found) names) (.wrongType found names)

/-- The value is one of those listed. -/
def enumeration (value found : Json) : Report :=
  .ofExcept do
    let options ← heldBy value
    return .ensure (options.any fun option => option.same found) (.notListed found value)

/-- The value equals a constant. -/
def constant (value found : Json) : Report := .ensure (found.same value) (.notConstant value)

/-- A number stands in a relation to a limit. -/
def limited (holds : Number → Number → Bool) (cause : Json → Json → Cause) (value found : Json) :
    Report :=
  match found.number? with
  | none => .clean
  | some n =>
    match value.ordinal? with
    | some limit => .ensure (holds n limit) (cause found value)
    | none => .failed .wrongKind

/-- The number is not less than the limit. -/
def minimum : Json → Json → Report := limited (fun n limit => !n.lt limit) .below

/-- The number is not greater than the limit. -/
def maximum : Json → Json → Report := limited (fun n limit => !limit.lt n) .above

/-- The number is greater than the limit, or not comparable with it. -/
def exclusiveMinimum : Json → Json → Report := limited (fun n limit => !n.le limit) .notAbove

/-- The number is less than the limit, or not comparable with it. -/
def exclusiveMaximum : Json → Json → Report := limited (fun n limit => !limit.le n) .notBelow

/-- Whether a member of a schema is there and counts as yes. -/
def flagged (schema : Members) (keyword : String) : Bool :=
  match schema.lookup (Text.ofString keyword) with
  | some flag => flag.affirms
  | none => false

/-- A lower limit that another member may exclude. -/
def flaggedMinimum (schema : Members) (value found : Json) : Report :=
  if flagged schema "exclusiveMinimum" then exclusiveMinimum value found else minimum value found

/-- An upper limit that another member may exclude. -/
def flaggedMaximum (schema : Members) (value found : Json) : Report :=
  if flagged schema "exclusiveMaximum" then exclusiveMaximum value found else maximum value found

/-- The fault of a quotient that does not exist. -/
def quotientFault : Number.QuotientFault → Fault
  | .notANumber => .notANumber
  | .outOfRange => .outOfRange
  | .byZero => .divisionByZero

/-- The number is a multiple of a unit. -/
def multipleOf (value found : Json) : Report :=
  match found.number? with
  | none => .clean
  | some n =>
    match value.ordinal? with
    | none => .failed .wrongKind
    | some unit =>
      match n.isMultipleOf unit with
      | .ok holds => .ensure holds (.notMultiple found value)
      | .error fault => .failed (quotientFault fault)

/-- The number of characters, items or members that a value has. -/
def size? (count : Count) (found : Json) : Option Nat :=
  match count, found with
  | .characters, .str s => some s.length
  | .items, .arr items => some items.length
  | .members, .obj members => some members.length
  | _, _ => none

/-- The value has no fewer of something than the limit. -/
def atLeast (count : Count) (value found : Json) : Report :=
  match size? count found with
  | none => .clean
  | some size =>
    match value.ordinal? with
    | none => .failed .wrongKind
    | some limit => .ensure (!(Number.int size).lt limit) (.tooFew found count limit)

/-- The value has no more of something than the limit. -/
def atMost (count : Count) (value found : Json) : Report :=
  match size? count found with
  | none => .clean
  | some size =>
    match value.ordinal? with
    | none => .failed .wrongKind
    | some limit => .ensure (!limit.lt (Number.int size)) (.tooMany found count limit)

/-- The items of an array are distinct. -/
def uniqueItems (value found : Json) : Report :=
  match found with
  | .arr items =>
    if value.affirms then .ensure (Json.distinct items) (.repeatedItems found) else .clean
  | _ => .clean

/-- The fault of a text that is no pattern. -/
def patternFault : Pattern.Fault → Fault
  | .malformed => .badPattern
  | .tooManyRepeats => .outOfRange
  | .tooManyDigits count => .tooManyDigits count
  | .clashingClasses => .clashingFlags

/-- The pattern that a text spells. -/
def readPattern (t : Text) : Except Fault Pattern.Finder :=
  match Pattern.read t with
  | .ok finder => .ok finder
  | .error fault => .error (patternFault fault)

/-- Whether a text holds a match of a pattern. -/
def findIn (finder : Pattern.Finder) (t : Text) : Except Fault Bool :=
  match finder.findIn t with
  | .present => .ok true
  | .absent => .ok false
  | .tangled => .error .tangledGroups

/-- The string holds a match of a pattern. -/
def pattern (value found : Json) : Report :=
  match found with
  | .str s =>
    match value with
    | .str t =>
      .ofExcept do
        let finder ← readPattern t
        return .ensure (← findIn finder s) (.mismatch found value)
    | _ => .failed .wrongKind
  | _ => .clean

/-- The string has a format. Where formats are checked, patterns are the one format that a string
can lack. -/
def format (checks : Bool) (value found : Json) : Report :=
  match found, value with
  | .str s, .str name =>
    if checks && name == Text.ofString "regex" then
      match Pattern.read s with
      | .ok _ => .clean
      | .error .malformed => .violation (.wrongFormat found value)
      | .error fault => .failed (patternFault fault)
    else .clean
  | _, _ => .clean

end Conform.Rules
