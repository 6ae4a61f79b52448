import Conform.Text.ClassTable

/-! # Character classes

Membership in a class is asked of the number of a code point, so that it serves characters and
code points alike. ASCII members are listed here as rules; the rest stands in tables.
-/

namespace Conform.Text

/-- Whether a number lies in one of the ranges. -/
def inRanges (ranges : List (Nat × Nat)) (n : Nat) : Bool :=
  ranges.any fun range => range.1 ≤ n && n ≤ range.2

/-- White space: tab to carriage return, the four separators from `0x1C`, and the spaces of every
script. Zero-width characters are not white space. -/
def isBlank (n : Nat) : Bool :=
  (0x09 ≤ n && n ≤ 0x0D) || (0x1C ≤ n && n ≤ 0x20) || n == 0x85 || n == 0xA0 || n == 0x1680 ||
    (0x2000 ≤ n && n ≤ 0x200A) || n == 0x2028 || n == 0x2029 || n == 0x202F || n == 0x205F ||
    n == 0x3000

/-- Characters that a quoted string shows as they are. -/
def isPrintable (n : Nat) : Bool :=
  if n < 0x80 then 0x20 ≤ n && n < 0x7F else !inRanges ClassTable.unprintable n

/-- The ten ASCII digits. -/
def isAsciiDigit (n : Nat) : Bool := 0x30 ≤ n && n ≤ 0x39

/-- The ASCII letters of either case. -/
def isAsciiLetter (n : Nat) : Bool := (0x41 ≤ n && n ≤ 0x5A) || (0x61 ≤ n && n ≤ 0x7A)

/-- Decimal digits of every script. -/
def isDigit (n : Nat) : Bool :=
  if n < 0x80 then isAsciiDigit n else inRanges ClassTable.decimalDigit n

/-- The value of a decimal digit. The digits of a script stand in order from zero to nine. -/
def digitValue? (n : Nat) : Option Nat :=
  if isAsciiDigit n then some (n - 0x30)
  else
    (ClassTable.decimalDigit.find? fun range => range.1 ≤ n && n ≤ range.2).map fun range =>
      (n - range.1) % 10

/-- Letters and numbers of every script, and the underscore. -/
def isWord (n : Nat) : Bool :=
  if n < 0x80 then isAsciiDigit n || isAsciiLetter n || n == 0x5F
  else inRanges ClassTable.alphanumeric n

/-- Letters with case, as far as they decide the form of a neighbouring letter. -/
def isCased (n : Nat) : Bool :=
  if n < 0x80 then isAsciiLetter n else inRanges ClassTable.cased n

/-- Characters that are skipped when a neighbouring letter decides a form. -/
def isCaseIgnorable (n : Nat) : Bool :=
  if n < 0x80 then n == 0x27 || n == 0x2E || n == 0x3A || n == 0x5E || n == 0x60
  else inRanges ClassTable.caseIgnorable n

/-- The number of columns a character takes when printed. -/
def columns (n : Nat) : Nat :=
  if n < 0x20 then 0
  else if n < 0x7F then 1
  else if n < 0xA0 then 0
  else if inRanges ClassTable.zeroWidth n then 0
  else if inRanges ClassTable.wide n then 2
  else 1

/-- A text without the white space at both ends. -/
def strip (s : String) : String :=
  let blank (c : Char) : Bool := isBlank c.toNat
  String.ofList ((s.toList.dropWhile blank).reverse.dropWhile blank).reverse

end Conform.Text
