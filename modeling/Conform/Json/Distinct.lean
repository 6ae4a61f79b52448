import Conform.Json.Value

/-! # Distinct items

Whether the items of an array are all different. Items that can be put in order are sorted and only
neighbours are compared; where two items meet that have no order, every pair is compared.

The order is that of numbers, texts and arrays of these. Inside of arrays it takes booleans for
numbers, while equality does not: an array may therefore stand between two equal ones.
-/

namespace Conform.Json

mutual

/-- Equality under which booleans are numbers. -/
def alike : Json → Json → Bool
  | .null, .null => true
  | .str s, .str t => s == t
  | .arr xs, .arr ys => alikeItems xs ys
  | .obj ms, .obj ns => ms.length == ns.length && alikeMembers ms ns
  | x, y =>
    match ordinal? x, ordinal? y with
    | some a, some b => a.eq b || (a == .real .nan && b == .real .nan)
    | _, _ => false

/-- Equality of arrays under which booleans are numbers. -/
def alikeItems : List Json → List Json → Bool
  | [], [] => true
  | x :: xs, y :: ys => alike x y && alikeItems xs ys
  | _, _ => false

/-- Whether every member of the first object has one like it in the second. -/
def alikeMembers : List (Text × Json) → List (Text × Json) → Bool
  | [], _ => true
  | (key, value) :: rest, others =>
    (match others.lookup key with
      | some other => alike value other
      | none => false) && alikeMembers rest others

end

mutual

/-- Whether a value comes before another one, if the two have an order. -/
def precedes? : Json → Json → Option Bool
  | .str s, .str t => some (Text.before s t)
  | .arr xs, .arr ys => itemsPrecede? xs ys
  | x, y =>
    match ordinal? x, ordinal? y with
    | some a, some b => some (a.lt b)
    | _, _ => none

/-- The order of arrays is that of their first items that differ, or of their lengths. -/
def itemsPrecede? : List Json → List Json → Option Bool
  | [], [] => some false
  | [], _ :: _ => some true
  | _ :: _, [] => some false
  | x :: xs, y :: ys => if alike x y then itemsPrecede? xs ys else precedes? x y

end

/-- The order of the items themselves, which booleans take no part in. -/
def sortsBefore? (x y : Json) : Option Bool :=
  match x, y with
  | .bool _, _ => none
  | _, .bool _ => none
  | x, y => precedes? x y

/-- The place of an item between two places of sorted items: behind those it does not precede. -/
def insertionPlace? (sorted : Array Json) (item : Json) (low high : Nat) : Option Nat :=
  if _h : low < high then
    let middle := low + (high - low) / 2
    match sorted[middle]? with
    | none => some low
    | some other =>
      match sortsBefore? item other with
      | none => none
      | some true => insertionPlace? sorted item low middle
      | some false => insertionPlace? sorted item (middle + 1) high
  else some low
  termination_by high - low

/-- Inserts items one by one into sorted ones. -/
def insertAll? (sorted : Array Json) : List Json → Option (Array Json)
  | [] => some sorted
  | item :: rest =>
    match insertionPlace? sorted item 0 sorted.size with
    | none => none
    | some place => insertAll? (sorted.insertIdxIfInBounds place item) rest

/-- The run of items behind `last` that keep falling, or that never fall. -/
def runFrom? (falling : Bool) (last : Json) : List Json → Option (List Json × List Json)
  | [] => some ([], [])
  | item :: rest =>
    match sortsBefore? item last with
    | none => none
    | some falls =>
      if falls == falling then
        (runFrom? falling item rest).map fun (run, tail) => (item :: run, tail)
      else some ([], item :: rest)

/-- The items in order, if they have one. The run they start with is taken as it is, or turned
round if it falls. -/
def sort? : List Json → Option (List Json)
  | [] => some []
  | [item] => some [item]
  | first :: second :: rest =>
    match sortsBefore? second first with
    | none => none
    | some falling =>
      match runFrom? falling second rest with
      | none => none
      | some (run, tail) =>
        let run := first :: second :: run
        (insertAll? (if falling then run.reverse else run).toArray tail).map Array.toList

/-- Whether no item equals its neighbour. -/
def neighboursDiffer : List Json → Bool
  | x :: y :: rest => !same x y && neighboursDiffer (y :: rest)
  | _ => true

/-- Whether no two items are equal. -/
def allDiffer : List Json → Bool
  | [] => true
  | x :: rest => !(rest.any (same x)) && allDiffer rest

/-- Whether the items count as distinct. -/
def distinct (items : List Json) : Bool :=
  match sort? items with
  | some sorted => neighboursDiffer sorted
  | none => allDiffer items

end Conform.Json
