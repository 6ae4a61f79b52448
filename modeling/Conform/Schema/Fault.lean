import Conform.Json.Display
import Conform.Json.Reader
import Conform.Uri

/-! # Faults of an evaluation

An evaluation may end without an answer. A reference may lead nowhere, a schema may refer to itself
without end, a keyword may hold a value it cannot work with, a number may be out of range.
-/

namespace Conform

/-- Why a reference leads nowhere. -/
inductive Unresolved
  /-- The document has no value at the pointer. -/
  | noPlace (pointer : Text) (document : Json)
  /-- The document has no anchor of that name. -/
  | noAnchor (name : Text) (document : Json)
  /-- The fragment is neither a name nor a pointer. -/
  | badAnchor (name : Text)
  /-- No document has that address. -/
  | noDocument (reference : Text)

namespace Unresolved

/-- What is said of something that a document does not hold. -/
def absence (what : Text) (document : Json) : String :=
  Text.quoted what ++ " does not exist within " ++ document.display

/-- The explanation of an unresolved reference. -/
def explanation : Unresolved → Text
  | .noPlace pointer document =>
    let hint :=
      if pointer = [Uri.slash] then
        ". The pointer '/' is a valid JSON Pointer but it points to an empty string property ''. " ++
          "If you intended to point to the entire resource, you should use '#'."
      else ""
    Text.ofString (absence pointer document ++ hint)
  | .noAnchor name document => Text.ofString (absence name document)
  | .badAnchor name =>
    Text.ofString "'#" ++ name ++
      Text.ofString ("' is not a valid anchor, neither as a plain name anchor nor as a JSON " ++
        "Pointer. You may have intended to use '#/") ++ name ++
      Text.ofString "', as the slash is required *before each segment* of a JSON pointer."
  | .noDocument reference => reference

/-- The name of the kind of failure. -/
def title : Unresolved → String
  | .noPlace .. => "PointerToNowhere"
  | .noAnchor .. => "NoSuchAnchor"
  | .badAnchor _ => "InvalidAnchor"
  | .noDocument _ => "Unresolvable"

/-- The kind of failure and its explanation. -/
def message (u : Unresolved) : Text := Text.ofString (u.title ++ ": ") ++ u.explanation

end Unresolved

/-- Why an evaluation ended without an answer. -/
inductive Fault
  /-- Schemas lead into each other without end, or too deep. -/
  | tooDeep
  /-- A value stands where a schema or an object is needed. -/
  | notAnObject
  /-- A value is of a kind that its keyword cannot work with. -/
  | wrongKind
  /-- A type has a name that the draft does not know. -/
  | unknownType
  /-- A quotient is not a number. -/
  | notANumber
  /-- A number is too large. -/
  | outOfRange
  /-- A number is to be divided by zero. -/
  | divisionByZero
  /-- A pattern is malformed. -/
  | badPattern
  /-- The flags of a pattern contradict each other. -/
  | clashingFlags
  /-- A number in a pattern has too many digits. -/
  | tooManyDigits (count : Nat)
  /-- A search ended with a group that stops before it starts. -/
  | tangledGroups
  /-- A reference is malformed. -/
  | badReference (fault : Uri.Fault)
  /-- A pointer leads into an array with a segment that is no number. -/
  | badIndex (segment : Text)
  /-- An anchor is looked for in a document without an address. -/
  | noResource
  /-- A reference of a schema leads nowhere. -/
  | unresolved (u : Unresolved)
  /-- A reference leads nowhere while the evaluated parts of a value are gathered. -/
  | lost (u : Unresolved)

namespace Fault

/-- The wording of a fault. -/
def message : Fault → Text
  | tooDeep => Text.ofString "too deep"
  | notAnObject => Text.ofString "not an object"
  | wrongKind => Text.ofString "a value of the wrong kind"
  | unknownType => Text.ofString "unknown type"
  | notANumber => Text.ofString "cannot convert float NaN to integer"
  | outOfRange => Text.ofString "number out of range"
  | divisionByZero => Text.ofString "division by zero"
  | badPattern => Text.ofString "malformed pattern"
  | clashingFlags => Text.ofString "ASCII and UNICODE flags are incompatible"
  | tooManyDigits count => Text.ofString (ReadError.tooManyDigits count).message
  | tangledGroups => Text.ofString "the span of a group is wrong"
  | badReference fault => fault.message
  | badIndex segment =>
    Text.ofString ("invalid literal for int() with base 10: " ++ Text.quoted segment)
  | noResource => Text.ofString "no such resource"
  | unresolved u => u.message
  | lost u => u.message

/-- The same fault, with a lost reference counted as a reference of the schema. -/
def ofReference : Fault → Fault
  | lost u => unresolved u
  | fault => fault

end Fault

end Conform
