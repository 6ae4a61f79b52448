import Conform.Text.Case

/-! # Letters up to case

Two letters are the same up to case if they have the same lower-case form, or if their lower-case
forms have an upper-case form in common, as `s` and the long `ſ` have. Only single characters are
compared, so of a form of several characters the first one counts.
-/

namespace Conform.Text

/-- The first character of a listed form, else the single form. -/
def firstOf (expansions : List (Nat × List Nat)) (single : Nat → Nat) (n : Nat) : Nat :=
  match expansions.lookup n with
  | some (first :: _) => first
  | _ => single n

/-- The lower-case form of a code point; `ascii` leaves all but ASCII letters alone. -/
def foldPoint (ascii : Bool) (n : Nat) : Nat :=
  if ascii && 0x80 ≤ n then n else firstOf CaseTable.lowerExpansions lowerPoint n

/-- The upper-case form of a code point. -/
def raisePoint (n : Nat) : Nat := firstOf CaseTable.upperExpansions upperPoint n

/-- Whether a code point has another form in lower or in upper case. -/
def hasCase (ascii : Bool) (n : Nat) : Bool :=
  if ascii then isAsciiLetter n else foldPoint false n != n || raisePoint n != n

/-- Lower-case forms that have an upper-case form in common. -/
def kindred : List (List Nat) := [
  [0x69, 0x131], [0x73, 0x17F], [0xB5, 0x3BC], [0x345, 0x3B9, 0x1FBE], [0x390, 0x1FD3],
  [0x3B0, 0x1FE3], [0x3B2, 0x3D0], [0x3B5, 0x3F5], [0x3B8, 0x3D1], [0x3BA, 0x3F0], [0x3C0, 0x3D6],
  [0x3C1, 0x3F1], [0x3C2, 0x3C3], [0x3C6, 0x3D5], [0x432, 0x1C80], [0x434, 0x1C81],
  [0x43E, 0x1C82], [0x441, 0x1C83], [0x442, 0x1C84, 0x1C85], [0x44A, 0x1C86], [0x463, 0x1C87],
  [0x1C88, 0xA64B], [0x1E61, 0x1E9B], [0xFB05, 0xFB06]]

/-- The lower-case forms that count as the same as the given one. -/
def kin (ascii : Bool) (n : Nat) : List Nat :=
  if ascii then [n] else (kindred.find? fun forms => forms.contains n).getD [n]

/-- The number that a run takes to `n`. -/
def runSource? (run : Nat × Nat × Nat × Nat) (n : Nat) : Option Nat :=
  let (first, last, step, image) := run
  if image ≤ n && n - image ≤ last - first && (n - image) % step == 0 then some (first + (n - image))
  else none

/-- The code points whose lower-case form is `n`. -/
def foldSources (ascii : Bool) (n : Nat) : List Nat :=
  let itself := if foldPoint ascii n = n then [n] else []
  let capital := if 0x61 ≤ n && n ≤ 0x7A then [n - 0x20] else []
  let others :=
    if ascii then []
    else
      CaseTable.lowerRuns.filterMap (runSource? · n) ++
        CaseTable.lowerExpansions.filterMap fun (source, image) =>
          if image.head? = some n then some source else none
  itself ++ capital ++ others

/-- Whether a run has a member between `low` and `high`. -/
def runMeets (low high : Nat) (run : Nat × Nat × Nat × Nat) : Bool :=
  let (first, last, step, _) := run
  let least := if first < low then first + (low - first + step - 1) / step * step else first
  least ≤ last && least ≤ high

/-- Whether a code point between `low` and `high` has case. -/
def hasCaseWithin (ascii : Bool) (low high : Nat) : Bool :=
  let meets (first last : Nat) : Bool := runMeets low high (first, last, 1, 0)
  meets 0x41 0x5A || meets 0x61 0x7A ||
    (!ascii &&
      (CaseTable.lowerRuns.any (runMeets low high) || CaseTable.upperRuns.any (runMeets low high) ||
        CaseTable.lowerExpansions.any (fun entry => low ≤ entry.1 && entry.1 ≤ high) ||
        CaseTable.upperExpansions.any fun entry => low ≤ entry.1 && entry.1 ≤ high))

end Conform.Text
