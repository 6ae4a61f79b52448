import Conform.Text.CharacterName.Aliases
import Conform.Text.CharacterName.Alphabets
import Conform.Text.CharacterName.Antiquity
import Conform.Text.CharacterName.Pictures
import Conform.Text.CharacterName.Signs
import Conform.Text.CharacterName.Syllables
import Conform.Text.Class
import Conform.Text.CodePoint

/-! # Characters by name

`Text.namedCharacter?` finds the character that a name belongs to. Ideographs and Korean syllables
have names that follow rules; all other names stand in tables, in which the case of letters does not
count.

A row of a table holds names of characters that follow one another: the code point of the first one
in hexadecimal digits, the words that all the names start with, a colon, and behind it what is left
of each name, with bars between.
-/

namespace Conform.Text

namespace CharacterName

/-- The value of a hexadecimal digit written with capital letters. -/
def hexDigit? (c : Char) : Option Nat :=
  if isAsciiDigit c.toNat then some (c.toNat - '0'.toNat)
  else if 'A' ≤ c && c ≤ 'F' then some (c.toNat - 'A'.toNat + 10)
  else none

/-- The number that hexadecimal digits spell. -/
def hexNumber? (digits : List Char) : Option Nat :=
  digits.foldlM (fun n c => (hexDigit? c).map (n * 16 + ·)) 0

/-- An ASCII letter as a capital. -/
def capital (c : Char) : Char := if 'a' ≤ c && c ≤ 'z' then Char.ofNat (c.toNat - 0x20) else c

/-- The character that a row gives a name to. -/
def inRow? (name : List Char) (row : String) : Option Nat := do
  let (digits, names) ← cut? ' ' row.toList
  let (start, ends) ← cut? ':' names
  let start := if start.isEmpty then [] else start ++ [' ']
  if start.isPrefixOf name then
    let first ← hexNumber? digits
    let rank ← (splitOn '|' ends).idxOf? (name.drop start.length)
    return first + rank
  else none

/-- The character that a name in a table belongs to. -/
def tabled? (name : List Char) : Option Nat :=
  [alphabets, signs, syllables, antiquity, pictures, aliases].findSome? fun rows =>
    rows.findSome? (inRow? (name.map capital))

/-- The ideographs that are named by their code points. -/
def ideographs : List (Nat × Nat) := [
  (0x3400, 0x4DBF), (0x4E00, 0x9FFF), (0x20000, 0x2A6DF), (0x2A700, 0x2B738), (0x2B740, 0x2B81D),
  (0x2B820, 0x2CEA1), (0x2CEB0, 0x2EBE0), (0x30000, 0x3134A)]

/-- The ideograph that the digits behind its name stand for. -/
def ideograph? (digits : List Char) : Option Nat := do
  let n ← hexNumber? digits
  if (digits.length = 4 || digits.length = 5) && inRanges ideographs n then some n else none

/-- Further characters that are named by their code points, for each kind of name. -/
def numbered : List (String × List (Nat × Nat)) := [
  ("CJK COMPATIBILITY IDEOGRAPH-", [(0xF900, 0xFA6D), (0xFA70, 0xFAD9), (0x2F800, 0x2FA1D)]),
  ("NUSHU CHARACTER-", [(0x1B170, 0x1B2FB)]),
  ("KHITAN SMALL SCRIPT CHARACTER-", [(0x18B00, 0x18CD5)])]

/-- The character that a name with its code point at the end belongs to. -/
def numbered? (name : List Char) : Option Nat :=
  numbered.findSome? fun (start, ranges) => do
    if start.toList.isPrefixOf (name.map capital) then
      let digits := (name.map capital).drop start.length
      let n ← hexNumber? digits
      if digits.length = (if n < 0x10000 then 4 else 5) && inRanges ranges n then some n else none
    else none

/-- The letters that a Korean syllable starts with. -/
def leads : List String := [
  "G", "GG", "N", "D", "DD", "R", "M", "B", "BB", "S", "SS", "", "J", "JJ", "C", "K", "T", "P", "H"]

/-- The vowels of a Korean syllable. -/
def vowels : List String := [
  "A", "AE", "YA", "YAE", "EO", "E", "YEO", "YE", "O", "WA", "WAE", "OE", "YO", "U", "WEO", "WE",
  "WI", "YU", "EU", "YI", "I"]

/-- The letters that a Korean syllable ends with. -/
def tails : List String := [
  "", "G", "GG", "GS", "N", "NJ", "NH", "D", "L", "LG", "LM", "LB", "LS", "LT", "LP", "LH", "M",
  "B", "BS", "S", "SS", "NG", "J", "C", "K", "T", "P", "H"]

/-- The rank of the longest of several words that a name starts with, and the rest of the name. -/
def longest? (words : List String) (name : List Char) : Option (Nat × List Char) :=
  let longer (best : Option String) (word : String) : Option String :=
    if word.toList.isPrefixOf name && best.all (·.length < word.length) then some word else best
  (words.foldl longer none).bind fun word =>
    (words.idxOf? word).map fun rank => (rank, name.drop word.length)

/-- The Korean syllable that the letters behind its name spell. -/
def syllable? (letters : List Char) : Option Nat := do
  let (lead, rest) ← longest? leads letters
  let (vowel, rest) ← longest? vowels rest
  let (tail, rest) ← longest? tails rest
  if rest.isEmpty then some (0xAC00 + (lead * 21 + vowel) * 28 + tail) else none

end CharacterName

open CharacterName in
/-- The character that a name belongs to. -/
def namedCharacter? (name : List Nat) : Option Nat :=
  let name := name.map Char.ofNat
  let syllable := "HANGUL SYLLABLE ".toList
  let ideograph := "CJK UNIFIED IDEOGRAPH-".toList
  if syllable.isPrefixOf name then syllable? (name.drop syllable.length)
  else if ideograph.isPrefixOf name then ideograph? (name.drop ideograph.length)
  else (numbered? name).or (tabled? name)

end Conform.Text
