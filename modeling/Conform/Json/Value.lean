import Conform.Entries
import Conform.Text.CodePoint
import Conform.Decimal.Number

/-! # JSON values

The value of a document. The members of an object keep their order, and no key stands twice: a
member that is put again keeps its place and takes the later value.
-/

namespace Conform

/-- A JSON value. -/
inductive Json
  | null
  | bool (b : Bool)
  | num (n : Number)
  | str (s : Text)
  | arr (items : List Json)
  | obj (members : List (Text × Json))
  deriving Inhabited

namespace Json

/-- The members as an object with each key once, later values winning. -/
def ofMembers (members : List (Text × Json)) : Json :=
  .obj (members.foldl (fun known (key, value) => Entries.put key value known) [])

/-- The value of a member of an object. -/
def member? (key : Text) : Json → Option Json
  | .obj members => members.lookup key
  | _ => none

/-- Whether an object has a member. -/
def hasMember (key : Text) (value : Json) : Bool := (member? key value).isSome

/-- Whether a value counts as yes: neither null nor false, zero or empty. -/
def affirms : Json → Bool
  | .null => false
  | .bool b => b
  | .num n => !n.eq (.int 0)
  | .str s => !s.isEmpty
  | .arr items => !items.isEmpty
  | .obj members => !members.isEmpty

/-- The number of a value that is one. Booleans are not numbers. -/
def number? : Json → Option Number
  | .num n => some n
  | _ => none

/-- The number that a value counts as where a number is wanted: a boolean counts as zero or one. -/
def ordinal? : Json → Option Number
  | .bool b => some (.int (if b then 1 else 0))
  | .num n => some n
  | _ => none

/-- What a value holds, one after the other: the items of an array, the keys of an object, the
characters of a text. -/
def contents? : Json → Option (List Json)
  | .arr items => some items
  | .obj members => some (members.map fun (key, _) => .str key)
  | .str s => some (s.map fun c => .str [c])
  | _ => none

/-- An integer value. -/
def ofInt (n : Int) : Json := .num (.int n)

/-- A string value. -/
def ofString (s : String) : Json := .str (Text.ofString s)

/-- An object with the given names. -/
def record (members : List (String × Json)) : Json :=
  .obj (members.map fun (name, value) => (Text.ofString name, value))

mutual

/-- The number of values around the innermost one, that one included. -/
def depth : Json → Nat
  | .arr items => itemsDepth items + 1
  | .obj members => membersDepth members + 1
  | _ => 1

/-- The greatest depth of several values. -/
def itemsDepth : List Json → Nat
  | [] => 0
  | item :: rest => max (depth item) (itemsDepth rest)

/-- The greatest depth of the values of members. -/
def membersDepth : List (Text × Json) → Nat
  | [] => 0
  | (_, value) :: rest => max (depth value) (membersDepth rest)

end

mutual

/-- Equality of values: numbers by value, objects without regard to the order of their members. A
value that is not a number equals itself. -/
def same : Json → Json → Bool
  | .null, .null => true
  | .bool a, .bool b => a == b
  | .num x, .num y => x.eq y || (x == .real .nan && y == .real .nan)
  | .str s, .str t => s == t
  | .arr xs, .arr ys => sameItems xs ys
  | .obj ms, .obj ns => ms.length == ns.length && sameMembers ms ns
  | _, _ => false

/-- Equality of arrays, item by item. -/
def sameItems : List Json → List Json → Bool
  | [], [] => true
  | x :: xs, y :: ys => same x y && sameItems xs ys
  | _, _ => false

/-- Whether every member of the first object has an equal one in the second. -/
def sameMembers : List (Text × Json) → List (Text × Json) → Bool
  | [], _ => true
  | (key, value) :: rest, others =>
    (match others.lookup key with
      | some other => same value other
      | none => false) && sameMembers rest others

end

end Json

end Conform
