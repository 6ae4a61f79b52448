import Conform.Text.CodePoint
import Conform.Text.Class

/-! # Quoted text

Messages show a text between quotes on one line. Single quotes are used unless the text holds a
single quote and no double quote. The backslash, the quote in use and the characters that do not
print are escaped, so the written form never holds a lone surrogate and is a `String`.
-/

namespace Conform.Text

/-- The hexadecimal digits of a number, with zeros in front up to a width. -/
def hexDigits (width n : Nat) : List Char :=
  let digits := Nat.toDigits 16 n
  List.replicate (width - digits.length) '0' ++ digits

/-- The written form of one code point between the given quotes. -/
def quotedPoint (quote : Char) (c : CodePoint) : List Char :=
  let n := c.value
  if n = '\\'.toNat || n = quote.toNat then ['\\', Char.ofNat n]
  else if n = '\n'.toNat then ['\\', 'n']
  else if n = '\r'.toNat then ['\\', 'r']
  else if n = '\t'.toNat then ['\\', 't']
  else if isPrintable n then [Char.ofNat n]
  else if n < 0x100 then '\\' :: 'x' :: hexDigits 2 n
  else if n < 0x10000 then '\\' :: 'u' :: hexDigits 4 n
  else '\\' :: 'U' :: hexDigits 8 n

/-- The quote that is put around a text. -/
def quoteFor (t : Text) : Char :=
  if t.contains (CodePoint.ofChar '\'') && !t.contains (CodePoint.ofChar '"') then '"' else '\''

/-- A text between quotes. -/
def quoted (t : Text) : String :=
  let quote := quoteFor t
  String.ofList (quote :: (t.flatMap (quotedPoint quote) ++ [quote]))

/-- A string between quotes. -/
def quotedString (s : String) : String := quoted (ofString s)

end Conform.Text
