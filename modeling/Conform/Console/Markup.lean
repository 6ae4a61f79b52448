import Conform.Console.Emoji
import Conform.Console.Style

/-! # Markup

A text to be printed may hold tags in square brackets. A tag opens a style or, with a slash, closes
one; only the text between tags is printed. Backslashes in front of a tag come in pairs, each of
which stands for one backslash, and a backslash without a partner makes plain text of the tag.
`Markup.escape` writes a text so that it is printed as it is.
-/

namespace Conform.Markup

/-- A part of a text with markup. -/
inductive Piece
  /-- Text between tags. -/
  | text (cs : List Char)
  /-- A tag, with the backslashes in front of it and what stands between its brackets. -/
  | tag (backslashes : Nat) (body : List Char)
  deriving DecidableEq, Repr

/-- Characters with which the body of a tag may start. -/
def startsTag (c : Char) : Bool :=
  ('a' ≤ c && c ≤ 'z') || c == '#' || c == '/' || c == '@'

/-- The characters up to a closing bracket and those behind it, unless another bracket is opened
first. -/
def untilClose? : List Char → Option (List Char × List Char)
  | [] => none
  | c :: rest =>
    if c == ']' then some ([], rest)
    else if c == '[' then none
    else (untilClose? rest).map fun (body, rest) => (c :: body, rest)

/-- The body of the tag that starts here, and the characters behind the tag. -/
def tagAt? : List Char → Option (List Char × List Char)
  | '[' :: c :: rest =>
    if startsTag c then (untilClose? rest).map fun (body, rest) => (c :: body, rest) else none
  | _ => none

/-- Puts a character in front of the pieces that follow it. -/
def consText (c : Char) : List Piece → List Piece
  | .text cs :: pieces => .text (c :: cs) :: pieces
  | pieces => .text [c] :: pieces

/-- Puts backslashes in front of the pieces that follow them. -/
def consBackslashes : Nat → List Piece → List Piece
  | 0, pieces => pieces
  | n + 1, pieces => consText '\\' (consBackslashes n pieces)

/-- The pieces of a text, of which the first characters are skipped because a tag holds them. -/
def piecesFrom (skipped backslashes : Nat) : List Char → List Piece
  | [] => consBackslashes backslashes []
  | c :: rest =>
    match skipped with
    | n + 1 => piecesFrom n 0 rest
    | 0 =>
      if c == '\\' then piecesFrom 0 (backslashes + 1) rest
      else
        match tagAt? (c :: rest) with
        | some (body, _) => .tag backslashes body :: piecesFrom (body.length + 1) 0 rest
        | none => consBackslashes backslashes (consText c (piecesFrom 0 0 rest))

/-- The pieces of a text. -/
def pieces (s : String) : List Piece := piecesFrom 0 0 s.toList

/-- The escaped form of a piece: a tag gets its backslashes doubled, and one more. -/
def Piece.escaped : Piece → List Char
  | .text cs => cs
  | .tag backslashes body =>
    List.replicate (2 * backslashes + 1) '\\' ++ '[' :: body ++ [']']

/-- Doubles a single backslash at the end of a text, which might stand in front of a tag. -/
def guardEnd (cs : List Char) : List Char :=
  match cs.reverse with
  | ['\\'] => cs ++ ['\\']
  | '\\' :: c :: _ => if c == '\\' then cs else cs ++ ['\\']
  | _ => cs

/-- A text whose tags are printed. -/
def escape (s : String) : String :=
  String.ofList (guardEnd ((pieces s).flatMap Piece.escaped))

/-- A tag that closes a style that is not open. -/
structure Fault where
  /-- The tag without its brackets. -/
  body : String
  deriving DecidableEq, Repr

/-- Text in which a backslash in front of a bracket is left out. -/
def plain : List Char → List Char
  | '\\' :: '[' :: rest => '[' :: plain rest
  | c :: rest => c :: plain rest
  | [] => []

/-- Characters that are never printed: bell, backspace, vertical tab, form feed and carriage
return. -/
def isControl (c : Char) : Bool := [7, 8, 11, 12, 13].contains c.toNat

/-- What a tag does to the names of the open styles, innermost first. A tag that closes a style
without a name closes the innermost one. What stands behind an equals sign is not part of a name. -/
def turn (openStyles : List String) (body : List Char) : Except Fault (List String) :=
  match body.takeWhile (· != '=') with
  | '/' :: name =>
    if name.all fun c => Text.isBlank c.toNat then
      match openStyles with
      | [] => .error ⟨String.ofList body⟩
      | _ :: outer => .ok outer
    else
      let name := Style.nameOf name
      if openStyles.contains name then .ok (openStyles.erase name) else .error ⟨String.ofList body⟩
  | name => .ok (Style.nameOf name :: openStyles)

/-- What is printed of some pieces while styles are open. -/
def renderPieces (openStyles : List String) : List Piece → Except Fault (List Char)
  | [] => .ok []
  | .text cs :: rest => (renderPieces openStyles rest).map (Emoji.replace (plain cs) ++ ·)
  | .tag backslashes body :: rest =>
    let shown := List.replicate (backslashes / 2) '\\'
    if backslashes % 2 = 1 then
      (renderPieces openStyles rest).map fun cs =>
        shown ++ Emoji.replace ('[' :: body ++ [']']) ++ cs
    else
      match turn openStyles body with
      | .error fault => .error fault
      | .ok openStyles => (renderPieces openStyles rest).map (shown ++ ·)

/-- What is printed of a text with markup. Emoji codes are replaced in each piece of it. -/
def render (s : String) : Except Fault String :=
  let printed (cs : List Char) : String := String.ofList (cs.filter fun c => !isControl c)
  if s.toList.contains '[' then (renderPieces [] (pieces s)).map printed
  else .ok (printed (Emoji.replace s.toList))

end Conform.Markup
