import Conform.Console.EmojiTable
import Conform.Text.Case
import Conform.Text.CodePoint

/-! # Emoji codes

The name of an emoji between colons stands for the emoji. The name may end with the wish to have it
shown as text or as a picture. A name that is not known stays as it is, with the colons around it.
-/

namespace Conform.Emoji

/-- The names and emoji of a row. -/
def pairs : List (List Char) → List (String × String)
  | name :: emoji :: rest => (String.ofList name, String.ofList emoji) :: pairs rest
  | _ => []

/-- The emoji by name. -/
def table : List (String × String) :=
  EmojiTable.rows.flatMap fun row => pairs (Text.splitOn ' ' row.toList)

/-- A list without an ending that it has. -/
def dropEnding? (ending cs : List Char) : Option (List Char) :=
  if ending.isSuffixOf cs then some (cs.take (cs.length - ending.length)) else none

/-- A name without the wish at its end, and the character that expresses the wish. -/
def splitWish (code : List Char) : List Char × List Char :=
  match dropEnding? "-emoji".toList code, dropEnding? "-text".toList code with
  | some name, _ => (name, ['\uFE0F'])
  | none, some name => (name, ['\uFE0E'])
  | none, none => (code, [])

/-- What a code between colons stands for. -/
def expand (code : List Char) : List Char :=
  let (name, wish) := splitWish code
  match table.lookup (Text.lower (String.ofList name)) with
  | some emoji => emoji.toList ++ wish
  | none => ':' :: code ++ [':']

/-- The characters up to the next colon, if there is no white space between. -/
def code? : List Char → Option (List Char)
  | [] => none
  | c :: rest =>
    if c == ':' then some []
    else if Text.isBlank c.toNat then none
    else (code? rest).map (c :: ·)

/-- Puts emoji in the place of codes. The first characters are skipped because they belong to a
code. -/
def replaceFrom (skipped : Nat) : List Char → List Char
  | [] => []
  | c :: rest =>
    match skipped with
    | n + 1 => replaceFrom n rest
    | 0 =>
      if c == ':' then
        match code? rest with
        | some code => expand code ++ replaceFrom (code.length + 1) rest
        | none => c :: replaceFrom 0 rest
      else c :: replaceFrom 0 rest

/-- Puts emoji in the place of codes. -/
def replace (cs : List Char) : List Char := replaceFrom 0 cs

end Conform.Emoji
