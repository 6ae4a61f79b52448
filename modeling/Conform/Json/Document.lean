import Conform.Json.Value

/-! # Documents as written

A document keeps what its value forgets: the line on which each value starts, and every occurrence
of a repeated key. `Document.value` is the value a reader of the document works with.
-/

namespace Conform

/-- A document as written, with the line of the first character of every value. -/
inductive Document
  | leaf (line : Nat) (content : Json)
  | array (line : Nat) (items : List Document)
  | object (line : Nat) (members : List (Text × Document))
  deriving Inhabited

namespace Document

/-- The line on which the value starts. -/
def line : Document → Nat
  | .leaf line _ => line
  | .array line _ => line
  | .object line _ => line

mutual

/-- The value of a document. Of a repeated key the last occurrence counts. -/
def value : Document → Json
  | .leaf _ content => content
  | .array _ items => .arr (itemValues items)
  | .object _ members => .ofMembers (memberValues members)

/-- The values of the items of an array. -/
def itemValues : List Document → List Json
  | [] => []
  | item :: rest => value item :: itemValues rest

/-- The members of an object with their values, repetitions included. -/
def memberValues : List (Text × Document) → List (Text × Json)
  | [] => []
  | (key, item) :: rest => (key, value item) :: memberValues rest

end

end Document

end Conform
