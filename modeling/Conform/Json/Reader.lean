import Conform.Json.Document
import Conform.Json.Lexeme

/-! # Reading JSON documents

`Document.read` reads a whole text. The grammar is that of JSON with three more words, `NaN`,
`Infinity` and `-Infinity`. A defect is reported with the line it stands on; documents nested beyond
`nestingLimit` and integers of too many digits are refused on other grounds than their form.

The readers are structural in a fuel that covers every text it is computed from: between two steps
of fuel at most one call passes that does not read a character.
-/

namespace Conform

/-- Why a text was not read. -/
inductive ReadError
  | defect (fault : Json.Fault) (line : Nat)
  | tooDeep
  | tooManyDigits (count : Nat)
  deriving DecidableEq, Repr

/-- The wording of an error. -/
def ReadError.message : ReadError → String
  | defect fault line => fault.message ++ " (line " ++ toString line ++ ")"
  | tooDeep => "nested too deeply"
  | tooManyDigits count =>
    "Exceeds the limit (4300 digits) for integer string conversion: value has " ++ toString count ++
      " digits; use sys.set_int_max_str_digits() to increase the limit"

namespace Document

open Json (Fault skipSpace stringBody numberLexeme? after?)

/-- Arrays and objects may be nested to this depth. -/
def nestingLimit : Nat := 990

/-- Where reading stands: the line of the next character and the remaining characters. -/
abbrev Position := Nat × List Char

/-- The words that stand for a value. -/
def words : List (List Char × Json) :=
  [("null".toList, .null), ("true".toList, .bool true), ("false".toList, .bool false),
    ("NaN".toList, .num (.real .nan)), ("Infinity".toList, .num (.real (.infinite false))),
    ("-Infinity".toList, .num (.real (.infinite true)))]

/-- The value of the word at the start of a text, with what remains. -/
def wordAt? (cs : List Char) : Option (Json × List Char) :=
  words.findSome? fun (word, value) => (after? word cs).map fun rest => (value, rest)

/-- A value that is neither a string nor an array nor an object. -/
def readScalar (line : Nat) (cs : List Char) : Except ReadError (Document × Position) :=
  match wordAt? cs with
  | some (value, rest) => .ok (.leaf line value, (line, rest))
  | none =>
    match numberLexeme? cs with
    | none => .error (.defect .expectingValue line)
    | some (lexeme, rest) =>
      match lexeme.value with
      | .error count => .error (.tooManyDigits count)
      | .ok n => .ok (.leaf line (.num n), (line, rest))

mutual

/-- Reads the value at the start of a text; `depth` more levels may be opened. -/
def readValue (fuel depth line : Nat) (cs : List Char) : Except ReadError (Document × Position) :=
  match fuel with
  | 0 => .error .tooDeep
  | fuel + 1 =>
    match cs with
    | '"' :: rest =>
      match stringBody true [] rest with
      | .error fault => .error (.defect fault line)
      | .ok (s, rest) => .ok (.leaf line (.str s), (line, rest))
    | '[' :: rest =>
      match depth with
      | 0 => .error .tooDeep
      | depth + 1 =>
        match skipSpace line rest with
        | (next, ']' :: rest) => .ok (.array line [], (next, rest))
        | (next, rest) =>
          match readItems fuel depth next rest [] with
          | .error e => .error e
          | .ok (items, position) => .ok (.array line items, position)
    | '\x7b' :: rest =>
      match depth with
      | 0 => .error .tooDeep
      | depth + 1 =>
        match skipSpace line rest with
        | (next, '\x7d' :: rest) => .ok (.object line [], (next, rest))
        | (next, rest) =>
          match readMembers fuel depth next rest [] with
          | .error e => .error e
          | .ok (members, position) => .ok (.object line members, position)
    | _ => readScalar line cs

/-- Reads the items of an array up to its bracket; `found` holds the earlier ones in reverse. -/
def readItems (fuel depth line : Nat) (cs : List Char) (found : List Document) :
    Except ReadError (List Document × Position) :=
  match fuel with
  | 0 => .error .tooDeep
  | fuel + 1 =>
    match readValue fuel depth line cs with
    | .error e => .error e
    | .ok (item, (line, rest)) =>
      match skipSpace line rest with
      | (next, ']' :: rest) => .ok ((item :: found).reverse, (next, rest))
      | (next, ',' :: rest) =>
        let (next, rest) := skipSpace next rest
        readItems fuel depth next rest (item :: found)
      | (next, _) => .error (.defect .expectingComma next)

/-- Reads the members of an object up to its brace; `found` holds the earlier ones in reverse. -/
def readMembers (fuel depth line : Nat) (cs : List Char) (found : List (Text × Document)) :
    Except ReadError (List (Text × Document) × Position) :=
  match fuel with
  | 0 => .error .tooDeep
  | fuel + 1 =>
    match cs with
    | '"' :: rest =>
      match stringBody true [] rest with
      | .error fault => .error (.defect fault line)
      | .ok (key, rest) =>
        match skipSpace line rest with
        | (line, ':' :: rest) =>
          let (line, rest) := skipSpace line rest
          match readValue fuel depth line rest with
          | .error e => .error e
          | .ok (value, (line, rest)) =>
            match skipSpace line rest with
            | (next, '\x7d' :: rest) => .ok (((key, value) :: found).reverse, (next, rest))
            | (next, ',' :: rest) =>
              let (next, rest) := skipSpace next rest
              readMembers fuel depth next rest ((key, value) :: found)
            | (next, _) => .error (.defect .expectingComma next)
        | (line, _) => .error (.defect .expectingColon line)
    | _ => .error (.defect .expectingName line)

end

/-- Reads a text that is one document with white space around it. -/
def readChars (cs : List Char) : Except ReadError Document :=
  match cs with
  | '\uFEFF' :: _ => .error (.defect .byteOrderMark 1)
  | _ =>
    let (line, start) := skipSpace 1 cs
    match readValue (2 * cs.length + 2) nestingLimit line start with
    | .error e => .error e
    | .ok (document, (line, rest)) =>
      match skipSpace line rest with
      | (_, []) => .ok document
      | (line, _) => .error (.defect .extraData line)

/-- Reads a document from a string. -/
def read (text : String) : Except ReadError Document := readChars text.toList

end Document

/-- The value of a text, or why it has none. -/
def Json.parse (text : String) : Except ReadError Json := (Document.read text).map Document.value

end Conform
