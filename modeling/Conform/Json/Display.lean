import Conform.Json.Value
import Conform.Text.Quoted
import Conform.Decimal.Shortest

/-! # Values in messages

Messages quote values on one line: `None`, `True` and `False`, numbers in decimal, strings between
quotes, arrays in brackets and objects in braces, with a blank after every comma and colon.
-/

namespace Conform

/-- The text of a number in a message. -/
def Number.display : Number → String
  | .int n => toString n
  | .real x => x.text .message

namespace Json

/-- The texts of several values, separated by commas. -/
def commaSeparated (texts : List String) : String := ", ".intercalate texts

mutual

/-- The text of a value in a message. -/
def display : Json → String
  | .null => "None"
  | .bool true => "True"
  | .bool false => "False"
  | .num n => n.display
  | .str s => Text.quoted s
  | .arr items => "[" ++ commaSeparated (displayItems items) ++ "]"
  | .obj members => "\x7b" ++ commaSeparated (displayMembers members) ++ "\x7d"

/-- The texts of the items of an array. -/
def displayItems : List Json → List String
  | [] => []
  | item :: rest => display item :: displayItems rest

/-- The texts of the members of an object. -/
def displayMembers : List (Text × Json) → List String
  | [] => []
  | (key, value) :: rest => (Text.quoted key ++ ": " ++ display value) :: displayMembers rest

end

end Json

end Conform
