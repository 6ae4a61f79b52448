import Conform.Entries
import Conform.Json.Document
import Conform.Json.Lexeme
import Conform.Json.Pointer
import Conform.Text.Class

/-! # Outlines

The outline of a document says on which line each of its values starts. `Outline.scan` reads it off
the characters alone, one after the other, and so has an answer for broken documents too: scanning
stops where nothing can be made of the text, and what was found up to there is the outline.
`Document.outline` is the outline of a document that was read.
-/

namespace Conform

/-- The lines of a value and of the values inside it. Each segment stands once among the
children. -/
inductive Outline
  | node (line : Nat) (children : List (Text × Outline))
  deriving Inhabited

namespace Outline

mutual

/-- The pointers and lines of an outline that stands at a pointer. -/
def entriesAt (pointer : Text) : Outline → List (Text × Nat)
  | .node line children => (pointer, line) :: childEntries pointer children

/-- The pointers and lines of the children of the value at a pointer. -/
def childEntries (pointer : Text) : List (Text × Outline) → List (Text × Nat)
  | [] => []
  | (segment, child) :: rest =>
    entriesAt (pointer ++ Pointer.slash :: Pointer.escape segment) child ++
      childEntries pointer rest

/-- The number of values. -/
def size : Outline → Nat
  | .node _ children => childrenSize children + 1

/-- The number of values in a list of children. -/
def childrenSize : List (Text × Outline) → Nat
  | [] => 0
  | (_, child) :: rest => size child + childrenSize rest

end

/-- All pointers with their lines. -/
def entries (outline : Outline) : List (Text × Nat) := entriesAt [] outline

/-- The line of the value at the end of a path. -/
def lineOf? : Outline → List Text → Option Nat
  | .node line _, [] => some line
  | .node _ children, segment :: rest =>
    match children.lookup segment with
    | some child => lineOf? child rest
    | none => none

/-- The line of the value at a pointer. -/
def lineAt? (outline : Outline) (pointer : Text) : Option Nat :=
  (Pointer.segments? pointer).bind outline.lineOf?

/-- An array or object that was opened and not yet closed. -/
structure Frame where
  /-- It is an array. -/
  isArray : Bool
  /-- The segment under which it stands in the value around it. -/
  segment : Text
  /-- The line on which it starts. -/
  line : Nat
  /-- The values inside it that are complete. -/
  children : List (Text × Outline)
  /-- The index of the next item. -/
  next : Nat
  /-- The key of the next value, once it is known. -/
  key : Option Text
  /-- A string would be a key. -/
  expectsKey : Bool

/-- Gives a complete value to an open one. The indices of an array never repeat. -/
def Frame.give (segment : Text) (value : Outline) (frame : Frame) : Frame :=
  if frame.isArray then { frame with children := (segment, value) :: frame.children }
  else { frame with children := Entries.put segment value frame.children }

/-- The value of a frame as if it were closed. -/
def Frame.value (frame : Frame) : Outline := .node frame.line frame.children

/-- What the next character belongs to. -/
inductive Mode
  /-- It starts something new. -/
  | between
  /-- A string, whose characters so far are given in reverse. -/
  | string (found : List Char) (escaped : Bool)
  /-- A word or number. -/
  | scalar
  /-- Nothing: scanning has stopped. -/
  | stopped

/-- A state of the scanner. -/
structure Scan where
  /-- The current line. -/
  line : Nat
  /-- What the next character belongs to. -/
  mode : Mode
  /-- The outermost value, once it is complete. -/
  root : Option Outline
  /-- The open values, innermost first. -/
  frames : List Frame

namespace Scan

/-- Before the first character. -/
def start : Scan := ⟨1, .between, none, []⟩

/-- Nothing more is read. -/
def stop (s : Scan) : Scan := { s with mode := .stopped }

/-- The segment at which a value would stand now, and the open values afterwards. Inside an object
there is none until a key is known; outside, none once a value is complete. -/
def slot? (s : Scan) : Option (Text × List Frame) :=
  match s.frames with
  | [] => if s.root.isSome then none else some ([], [])
  | frame :: outer =>
    if frame.isArray then
      some (Text.ofString (toString frame.next), { frame with next := frame.next + 1 } :: outer)
    else frame.key.map fun key => (key, frame :: outer)

/-- Gives a complete value to the innermost open value, or makes it the root. -/
def attach (segment : Text) (value : Outline) (s : Scan) : Scan :=
  match s.frames with
  | [] => { s with root := some value }
  | frame :: outer => { s with frames := frame.give segment value :: outer }

/-- A string, word or number stands at the current line. -/
def leaf (mode : Mode) (s : Scan) : Scan :=
  match s.slot? with
  | none => s.stop
  | some (segment, frames) => attach segment (.node s.line []) { s with frames, mode }

/-- An array or object is opened at the current line. -/
def openFrame (isArray : Bool) (s : Scan) : Scan :=
  match s.slot? with
  | none => s.stop
  | some (segment, frames) =>
    { s with frames := ⟨isArray, segment, s.line, [], 0, none, true⟩ :: frames }

/-- The innermost open value is closed, by either kind of bracket. -/
def closeFrame (s : Scan) : Scan :=
  match s.frames with
  | [] => s
  | frame :: outer => attach frame.segment frame.value { s with frames := outer }

/-- Changes the innermost open value. -/
def onTop (f : Frame → Frame) (s : Scan) : Scan :=
  match s.frames with
  | [] => s
  | frame :: outer => { s with frames := f frame :: outer }

/-- The key that a string spells: its decoded form, or its characters where an escape is wrong. -/
def keyOf (raw : List Char) : Text :=
  match Json.stringBody false [] (raw ++ ['"']) with
  | .ok (key, _) => key
  | .error _ => raw.map CodePoint.ofChar

/-- A string is complete. It is a key where the innermost open value expects one. -/
def stringEnd (raw : List Char) (s : Scan) : Scan :=
  let lines := raw.count '\n'
  let s := { s with mode := .between }
  let isKey :=
    match s.frames with
    | frame :: _ => !frame.isArray && frame.expectsKey
    | [] => false
  let s :=
    if isKey then s.onTop fun frame => { frame with key := some (keyOf raw) } else s.leaf .between
  { s with line := s.line + lines }

/-- Characters that cannot be part of a word or number. -/
def endsScalar (c : Char) : Bool :=
  Text.isBlank c.toNat || c == ',' || c == ':' || c == '[' || c == ']' || c == '\x7b' ||
    c == '\x7d' || c == '"'

/-- One character between tokens. -/
def stepBetween (s : Scan) (c : Char) : Scan :=
  let s := { s with mode := .between }
  if Json.isSpace c then (if c == '\n' then { s with line := s.line + 1 } else s)
  else if c == '[' then s.openFrame true
  else if c == '\x7b' then s.openFrame false
  else if c == ']' || c == '\x7d' then s.closeFrame
  else if c == ':' then s.onTop fun frame => { frame with expectsKey := false }
  else if c == ',' then
    s.onTop fun frame =>
      if frame.isArray then frame else { frame with expectsKey := true, key := none }
  else if c == '"' then { s with mode := .string [] false }
  else if endsScalar c then s.stop
  else s.leaf .scalar

/-- One character. -/
def step (s : Scan) (c : Char) : Scan :=
  match s.mode with
  | .stopped => s
  | .between => s.stepBetween c
  | .scalar => if endsScalar c then s.stepBetween c else s
  | .string found escaped =>
    if escaped then { s with mode := .string (c :: found) false }
    else if c == '\\' then { s with mode := .string (c :: found) true }
    else if c == '"' then s.stringEnd found.reverse
    else { s with mode := .string (c :: found) false }

/-- Closes the open values around a complete one. -/
def enclose (segment : Text) (value : Outline) : List Frame → Outline
  | [] => value
  | frame :: outer => enclose frame.segment (frame.give segment value).value outer

/-- The outermost value, after closing what is still open. -/
def finish (s : Scan) : Option Outline :=
  match s.frames with
  | [] => s.root
  | frame :: outer => some (enclose frame.segment frame.value outer)

end Scan

/-- The outline of a text, as far as something can be made of it. -/
def scanChars (cs : List Char) : Option Outline :=
  (cs.foldl Scan.step Scan.start).finish

/-- The outline of a string. -/
def scan (text : String) : Option Outline := scanChars text.toList

end Outline

namespace Document

mutual

/-- The outline of a document that was read. Of a repeated key the last occurrence counts. -/
def outline : Document → Outline
  | .leaf line _ => .node line []
  | .array line items => .node line (itemOutlines 0 items)
  | .object line members => .node line (memberOutlines [] members)

/-- The outlines of the items of an array from an index on. -/
def itemOutlines (index : Nat) : List Document → List (Text × Outline)
  | [] => []
  | item :: rest =>
    (Text.ofString (toString index), outline item) :: itemOutlines (index + 1) rest

/-- The outlines of the members of an object, put one after the other. -/
def memberOutlines (known : List (Text × Outline)) : List (Text × Document) → List (Text × Outline)
  | [] => known
  | (key, value) :: rest => memberOutlines (Entries.put key (outline value) known) rest

end

end Document

end Conform
