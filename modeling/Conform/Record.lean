import Conform.Diagnostic
import Conform.Json.Value
import Conform.Schema.Cause

/-! # Diagnostics and failures as records

A diagnostic or failure is handed over as a record, an object with a member for each field. Fields
that may be left out have a value of their own, members that are no field are ignored, and a field
with a wrong value makes the record no diagnostic or failure at all. A line may be written as any
number without a fraction, or as a text that spells one.
-/

namespace Conform

namespace Record

/-- The string of a value that is one. -/
def string? : Json → Option String
  | .str s => s.toString?
  | _ => none

/-- The items of a value that is an array. -/
def items? : Json → Option (List Json)
  | .arr items => some items
  | _ => none

/-- The field of a record that has to be there. -/
def required? {α : Type} (name : String) (read : Json → Option α) (record : Json) : Option α :=
  (record.member? (Text.ofString name)).bind read

/-- The field of a record that may be left out. -/
def optional? {α : Type} (name : String) (absent : α) (read : Json → Option α) (record : Json) :
    Option α :=
  match record.member? (Text.ofString name) with
  | none => some absent
  | some value => read value

/-- The number that ASCII digits spell, with single underscores between them. -/
def digits? (found : Nat) : List Char → Option Nat
  | [] => some found
  | '_' :: c :: rest => if c.isDigit then digits? found (c :: rest) else none
  | c :: rest => if c.isDigit then digits? (found * 10 + (c.toNat - '0'.toNat)) rest else none

/-- Digits without a fraction that holds only zeros. -/
def dropZeroFraction (cs : List Char) : List Char :=
  match Text.cut? '.' cs with
  | some (whole, fraction) => if fraction.all (· == '0') then whole else cs
  | none => cs

/-- The number that a text without white space around it spells. -/
def natural? (cs : List Char) : Option Nat :=
  let cs :=
    match cs with
    | '+' :: rest => rest
    | _ => cs
  match dropZeroFraction cs with
  | [] => none
  | '_' :: _ => none
  | digits => digits? 0 digits

/-- The numbers of lines that are written with a fraction are below this one. -/
def lineBound : Int := 9223372036854775808

/-- The line that a value gives: a positive integer, written as a number or as a text. -/
def line? (value : Json) : Option Nat :=
  let line : Option Nat :=
    match value with
    | .bool b => some b.toNat
    | .num (.int n) => some n.toNat
    | .num (.real x) =>
      match (Number.real x).place with
      | .at num den =>
        if num % den = 0 && num < den * lineBound then some (num / den).toNat else none
      | _ => none
    | .str s => s.toString?.bind fun s => natural? (Text.strip s).toList
    | _ => none
  line.filter (1 ≤ ·)

end Record

/-- The diagnostic of a record. Without a line it stands on the first one, and without a severity it
is an error. -/
def Diagnostic.ofRecord? (record : Json) : Option Diagnostic := do
  let file ← Record.required? "file" Record.string? record
  let message ← Record.required? "message" Record.string? record
  let line ← Record.optional? "line" 1 Record.line? record
  let severity ← Record.optional? "severity" .error
    (fun value => (Record.string? value).bind Severity.ofText?) record
  return ⟨FilePath.ofString file, message, line, severity⟩

/-- The failure of a record. Without alternatives it has none. -/
def Failure.ofRecord? (record : Json) : Option Failure := do
  let pointer ← Record.required? "pointer" Record.string? record
  let message ← Record.required? "message" Record.string? record
  let alternatives ← Record.optional? "alternatives" []
    (fun value => (Record.items? value).bind fun branches =>
      branches.mapM fun branch => (Record.items? branch).bind (·.mapM Record.string?)) record
  return ⟨Text.ofString pointer, message, alternatives⟩

end Conform
