import Conform.Text.CodePoint

/-! # Patterns

A pattern as a tree. The flags of a pattern are decided while it is read, so every node carries what
it needs of them and means the same wherever it stands.
-/

namespace Conform

namespace Pattern

/-- How letters and classes are read in a part of a pattern. -/
structure Mode where
  /-- Case does not count. -/
  fold : Bool
  /-- Named classes hold ASCII characters only, and only ASCII letters have case. -/
  ascii : Bool
  deriving DecidableEq, Repr

/-- A class of characters that an escape names. -/
inductive CharClass
  | digit
  | blank
  | word
  deriving DecidableEq, Repr

/-- A member of a set of characters. -/
inductive SetItem
  | point (value : Nat)
  | range (low high : Nat)
  | named (kind : CharClass) (negated : Bool)
  deriving DecidableEq, Repr

/-- How often a repetition tries before it goes on. -/
inductive Greed
  | greedy
  | reluctant
  | possessive
  deriving DecidableEq, Repr

/-- A place in a text that takes no character. -/
inductive Anchor
  /-- The start of the text, or of any line. -/
  | start (everyLine : Bool)
  /-- The end of the text or before its last line feed, or the end of any line. -/
  | stop (everyLine : Bool)
  /-- The very end of the text. -/
  | veryEnd
  /-- Between a word character and another character. -/
  | wordEdge (ascii negated : Bool)
  deriving DecidableEq, Repr

end Pattern

open Pattern in
/-- A pattern. -/
inductive Pattern
  /-- The given character, or any other where `negated` is set. -/
  | point (mode : Mode) (negated : Bool) (value : Nat)
  /-- Any character; line feeds only where `feeds` is set. -/
  | anything (feeds : Bool)
  /-- A character in the set, or outside it. -/
  | oneOf (mode : Mode) (negated : Bool) (items : List SetItem)
  | anchor (place : Anchor)
  | sequence (parts : List Pattern)
  | choice (branches : List Pattern)
  /-- A group that was read under flags of its own. -/
  | scoped (part : Pattern)
  /-- Remembers what its part matches under a number. -/
  | capture (group : Nat) (part : Pattern)
  | times (least : Nat) (most : Option Nat) (greed : Greed) (part : Pattern)
  /-- What the group matched last. -/
  | again (mode : Mode) (group : Nat)
  /-- The part matches from here, or does not. -/
  | ahead (negated : Bool) (part : Pattern)
  /-- The part, which is `width` characters wide, matches up to here, or does not. -/
  | behind (negated : Bool) (width : Nat) (part : Pattern)
  /-- The first way the part matches, and no other. -/
  | atomic (part : Pattern)
  /-- One of two parts, depending on whether a group has matched. -/
  | ifMatched (group : Nat) (yes no : Pattern)
  deriving Inhabited

namespace Pattern

/-- A pattern with what a search for it has to know. -/
structure Finder where
  /-- The pattern. -/
  pattern : Pattern
  /-- The named classes of the pattern hold ASCII characters only, where no group says
  otherwise. -/
  ascii : Bool

end Pattern

end Conform
