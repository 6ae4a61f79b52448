import Conform.Text.Class
import Conform.Text.CaseTable

/-! # Lower and upper case

Full case mapping of strings: one character may become several, and a capital sigma becomes a
final sigma at the end of a word. Names of files are compared through `lower`.
-/

namespace Conform.Text

/-- The image of a number under the first run that covers it. -/
def runImage (runs : List (Nat × Nat × Nat × Nat)) (n : Nat) : Nat :=
  let covers : Nat × Nat × Nat × Nat → Bool := fun (first, last, step, _) =>
    first ≤ n && n ≤ last && (n - first) % step == 0
  match runs.find? covers with
  | some (first, _, _, image) => image + (n - first)
  | none => n

/-- The lower-case form of a single code point that has one of its own. -/
def lowerPoint (n : Nat) : Nat :=
  if n < 0x80 then (if 0x41 ≤ n && n ≤ 0x5A then n + 0x20 else n)
  else runImage CaseTable.lowerRuns n

/-- The upper-case form of a single code point that has one of its own. -/
def upperPoint (n : Nat) : Nat :=
  if n < 0x80 then (if 0x61 ≤ n && n ≤ 0x7A then n - 0x20 else n)
  else runImage CaseTable.upperRuns n

/-- The image of a character: a listed expansion, else the single form. -/
def caseImage (expansions : List (Nat × List Nat)) (single : Nat → Nat) (c : Char) : List Char :=
  if c.toNat < 0x80 then [Char.ofNat (single c.toNat)]
  else
    match expansions.lookup c.toNat with
    | some image => image.map Char.ofNat
    | none => [Char.ofNat (single c.toNat)]

/-- Whether the nearest character that is not ignored has case. -/
def meetsCased : List Char → Bool
  | [] => false
  | c :: rest => if isCaseIgnorable c.toNat then meetsCased rest else isCased c.toNat

/-- The capital sigma, whose lower-case form depends on its place in the word. -/
def capitalSigma : Char := 'Σ'

/-- The lower-case images of `rest`, given the characters before it in reverse. A capital sigma
that ends a word becomes a final sigma. -/
def lowerFrom (before : List Char) : List Char → List Char
  | [] => []
  | c :: rest =>
    let image :=
      if c = capitalSigma then
        [if meetsCased before && !meetsCased rest then 'ς' else 'σ']
      else caseImage CaseTable.lowerExpansions lowerPoint c
    image ++ lowerFrom (c :: before) rest

/-- A string in lower case. -/
def lower (s : String) : String := String.ofList (lowerFrom [] s.toList)

/-- A string in upper case. -/
def upper (s : String) : String :=
  String.ofList (s.toList.flatMap (caseImage CaseTable.upperExpansions upperPoint))

end Conform.Text
