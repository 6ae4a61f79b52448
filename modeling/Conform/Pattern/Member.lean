import Conform.Pattern.Tree
import Conform.Text.Fold

/-! # Characters that a pattern takes

A node that stands for one character takes a character by itself, by a set or by a named class, up
to case where its mode says so. `Pattern.takes` decides that for a single character.
-/

namespace Conform.Pattern

/-- Membership in a named class. -/
def CharClass.holds (ascii : Bool) (kind : CharClass) (n : Nat) : Bool :=
  if ascii && 0x80 ≤ n then false
  else
    match kind with
    | .digit => Text.isDigit n
    | .blank => if ascii then n == 0x20 || (0x09 ≤ n && n ≤ 0x0D) else Text.isBlank n
    | .word => Text.isWord n

/-- Membership in an item of a set. -/
def SetItem.holds (ascii : Bool) (n : Nat) : SetItem → Bool
  | .point value => n == value
  | .range low high => low ≤ n && n ≤ high
  | .named kind negated => kind.holds ascii n != negated

/-- The last code point of the basic plane. -/
def lastBasic : Nat := 0xFFFF

/-- Whether a lower-case form comes from a code point of the basic plane that lies in a range. -/
def comesFrom (ascii : Bool) (low high n : Nat) : Bool :=
  (Text.kin ascii n).any fun form =>
    (Text.foldSources ascii form).any fun source =>
      low ≤ source && source ≤ high && source ≤ lastBasic

/-- Membership of a lower-case form in an item of a set whose letters count in both cases. Beyond
the basic plane a single letter of a set counts in lower case only, and a range counts the
upper-case form too. -/
def SetItem.holdsFolded (ascii : Bool) (n : Nat) : SetItem → Bool
  | .point value =>
    if value ≤ lastBasic then (Text.kin ascii (Text.foldPoint ascii value)).contains n
    else n == value
  | .range low high =>
    let within (m : Nat) : Bool := low ≤ m && m ≤ high
    comesFrom ascii low high n || (lastBasic < high && (within n || within (Text.raisePoint n)))
  | .named kind negated => kind.holds ascii n != negated

/-- Membership in a set. -/
def inSet (mode : Mode) (items : List SetItem) (n : Nat) : Bool :=
  if mode.fold then items.any (SetItem.holdsFolded mode.ascii (Text.foldPoint mode.ascii n))
  else items.any (SetItem.holds mode.ascii n)

/-- Whether a character of a text counts as the given one. A character without case counts as
itself only. -/
def countsAs (mode : Mode) (value n : Nat) : Bool :=
  if mode.fold && Text.hasCase mode.ascii value then
    (Text.kin mode.ascii (Text.foldPoint mode.ascii value)).contains (Text.foldPoint mode.ascii n)
  else n == value

/-- Whether two characters of a text are the same, up to the lower-case form where case does not
count. -/
def alike (mode : Mode) (a b : Nat) : Bool :=
  if mode.fold then Text.foldPoint mode.ascii a == Text.foldPoint mode.ascii b else a == b

/-- Whether a pattern stands for a single character. -/
def isSingle : Pattern → Bool
  | .point .. => true
  | .anything _ => true
  | .oneOf .. => true
  | .sequence [part] => isSingle part
  | .scoped part => isSingle part
  | _ => false

/-- Whether a pattern for a single character takes the given one. -/
def takes (n : Nat) : Pattern → Bool
  | .point mode negated value => countsAs mode value n != negated
  | .anything feeds => feeds || n != 0x0A
  | .oneOf mode negated items => inSet mode items n != negated
  | .sequence [part] => takes n part
  | .scoped part => takes n part
  | _ => false

/-- Whether the letters of an item have another form that counts too. -/
def SetItem.varies (ascii : Bool) : SetItem → Bool
  | .point value => Text.hasCase ascii value
  | .range low high => lastBasic < high || Text.hasCaseWithin ascii low high
  | .named .. => false

end Conform.Pattern
