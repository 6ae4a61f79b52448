import Conform.Json.Value

/-! # Lexemes of JSON

White space, strings, numbers and words at the start of a list of characters. Each reader returns
what it read and what remains.
-/

namespace Conform.Json

/-- What is wrong with a text that is no JSON document. -/
inductive Fault
  | expectingValue
  | expectingName
  | expectingColon
  | expectingComma
  | unterminatedString
  | controlCharacter
  | badEscape
  | badUnicodeEscape
  | extraData
  | byteOrderMark
  deriving DecidableEq, Repr

/-- The wording of a fault. -/
def Fault.message : Fault → String
  | .expectingValue => "Expecting value"
  | .expectingName => "Expecting property name enclosed in double quotes"
  | .expectingColon => "Expecting ':' delimiter"
  | .expectingComma => "Expecting ',' delimiter"
  | .unterminatedString => "Unterminated string starting at"
  | .controlCharacter => "Invalid control character at"
  | .badEscape => "Invalid \\escape"
  | .badUnicodeEscape => "Invalid \\uXXXX escape"
  | .extraData => "Extra data"
  | .byteOrderMark => "Unexpected UTF-8 BOM (decode using utf-8-sig)"

/-- The four characters between tokens. -/
def isSpace (c : Char) : Bool := c == ' ' || c == '\t' || c == '\n' || c == '\r'

/-- Skips white space and counts the lines that end in it. -/
def skipSpace (line : Nat) : List Char → Nat × List Char
  | [] => (line, [])
  | c :: rest =>
    if isSpace c then skipSpace (if c == '\n' then line + 1 else line) rest else (line, c :: rest)

/-- What remains after a word that stands at the start. -/
def after? : List Char → List Char → Option (List Char)
  | [], cs => some cs
  | _ :: _, [] => none
  | w :: word, c :: cs => if w == c then after? word cs else none

/-- The value of a hexadecimal digit. -/
def hexValue? (c : Char) : Option Nat :=
  let n := c.toNat
  if '0'.toNat ≤ n && n ≤ '9'.toNat then some (n - '0'.toNat)
  else if 'a'.toNat ≤ n && n ≤ 'f'.toNat then some (n - 'a'.toNat + 10)
  else if 'A'.toNat ≤ n && n ≤ 'F'.toNat then some (n - 'A'.toNat + 10)
  else none

/-- The code point that four hexadecimal digits spell. -/
def hexFour? (a b c d : Char) : Option CodePoint := do
  let a ← hexValue? a
  let b ← hexValue? b
  let c ← hexValue? c
  let d ← hexValue? d
  return CodePoint.ofNat (((a * 16 + b) * 16 + c) * 16 + d)

/-- The character that a one-letter escape stands for. -/
def escaped? (c : Char) : Option Char :=
  if c == '"' then some '"'
  else if c == '\\' then some '\\'
  else if c == '/' then some '/'
  else if c == 'b' then some '\x08'
  else if c == 'f' then some '\x0c'
  else if c == 'n' then some '\n'
  else if c == 'r' then some '\r'
  else if c == 't' then some '\t'
  else none

/-- Adds a code point to a text in reverse; a low surrogate is joined with the high one before
it. -/
def push (found : Text) (point : CodePoint) : Text :=
  match found with
  | high :: before =>
    if high.isHighSurrogate && point.isLowSurrogate then
      CodePoint.joinSurrogates high point :: before
    else point :: found
  | [] => [point]

/-- Reads the rest of a string after its opening quote; `found` holds what was read, in reverse.
Control characters are refused in a `strict` reading. A hexadecimal escape that ends the text is
refused as such, although its closing quote is missing too. -/
def stringBody (strict : Bool) (found : Text) : List Char → Except Fault (Text × List Char)
  | [] => .error .unterminatedString
  | '"' :: rest => .ok (found.reverse, rest)
  | '\\' :: 'u' :: a :: b :: c :: d :: rest =>
    match rest.isEmpty, hexFour? a b c d with
    | false, some point => stringBody strict (push found point) rest
    | _, _ => .error .badUnicodeEscape
  | '\\' :: 'u' :: _ => .error .badUnicodeEscape
  | '\\' :: e :: rest =>
    match escaped? e with
    | none => .error .badEscape
    | some point => stringBody strict (CodePoint.ofChar point :: found) rest
  | '\\' :: [] => .error .unterminatedString
  | c :: rest =>
    if strict && c.toNat < 0x20 then .error .controlCharacter
    else stringBody strict (CodePoint.ofChar c :: found) rest

/-- Splits off the decimal digits at the start. -/
def digits : List Char → List Char × List Char
  | [] => ([], [])
  | c :: rest =>
    if c.isDigit then
      let (found, after) := digits rest
      (c :: found, after)
    else ([], c :: rest)

theorem digits_append (cs : List Char) : (digits cs).1 ++ (digits cs).2 = cs := by
  induction cs with
  | nil => rfl
  | cons c rest ih =>
    simp only [digits]
    split <;> simp [ih]

/-- The number that decimal digits spell. -/
def natOf (ds : List Char) : Nat := ds.foldl (fun n d => n * 10 + (d.toNat - '0'.toNat)) 0

/-- The number literal at the start of a text, in its parts. -/
structure NumberLexeme where
  /-- A minus sign stands in front. -/
  negative : Bool
  /-- The digits before the point. -/
  whole : List Char
  /-- The digits after the point, if there is one. -/
  fraction : List Char
  /-- The exponent, if there is one. -/
  exponent : Option Int

/-- The whole part of a number: a zero alone, or digits that start with another digit. -/
def wholePart? : List Char → Option (List Char × List Char)
  | [] => none
  | c :: rest =>
    if c == '0' then some ([c], rest)
    else if c.isDigit then some (digits (c :: rest))
    else none

/-- A point with at least one digit after it. -/
def fractionPart : List Char → List Char × List Char
  | '.' :: rest =>
    match (digits rest).1 with
    | [] => ([], '.' :: rest)
    | found => (found, (digits rest).2)
  | cs => ([], cs)

/-- The sign of an exponent. -/
def exponentSign : List Char → Bool × List Char
  | '-' :: rest => (true, rest)
  | '+' :: rest => (false, rest)
  | cs => (false, cs)

/-- An exponent with at least one digit. -/
def exponentPart (cs : List Char) : Option Int × List Char :=
  match cs with
  | c :: rest =>
    if c == 'e' || c == 'E' then
      let (negative, after) := exponentSign rest
      match (digits after).1 with
      | [] => (none, cs)
      | found =>
        let n : Int := natOf found
        (some (if negative then -n else n), (digits after).2)
    else (none, cs)
  | [] => (none, [])

/-- The longest number literal at the start of a text. -/
def numberLexeme? (cs : List Char) : Option (NumberLexeme × List Char) :=
  let (negative, unsigned) :=
    match cs with
    | '-' :: rest => (true, rest)
    | _ => (false, cs)
  match wholePart? unsigned with
  | none => none
  | some (whole, rest) =>
    let (fraction, rest) := fractionPart rest
    let (exponent, rest) := exponentPart rest
    some (⟨negative, whole, fraction, exponent⟩, rest)

/-- The integers that may be written have at most this many digits. -/
def digitLimit : Nat := 4300

/-- The number that a literal spells: a double if it has a fraction or an exponent, an integer
otherwise. The error is the number of digits of an integer that has too many. -/
def NumberLexeme.value (lexeme : NumberLexeme) : Except Nat Number :=
  if lexeme.fraction.isEmpty && lexeme.exponent.isNone then
    if lexeme.whole.length > digitLimit then .error lexeme.whole.length
    else
      let n : Int := natOf lexeme.whole
      .ok (.int (if lexeme.negative then -n else n))
  else
    .ok (.real (Double.ofDecimal lexeme.negative (natOf (lexeme.whole ++ lexeme.fraction))
      (lexeme.exponent.getD 0 - lexeme.fraction.length)))

end Conform.Json
