import Conform.Pattern.Tree

/-! # The width of a pattern

How many characters a pattern takes, at least and at most. A width is counted up to a limit, which
also stands for a width without a bound; the least width stops one short of it, so that a width
beyond the limit never counts as fixed.
-/

namespace Conform.Pattern

/-- The greatest width is not counted beyond this number. -/
def widthLimit : Nat := 4294967295

/-- How many characters a part of a pattern takes. -/
structure Width where
  /-- The least number. -/
  least : Nat
  /-- The greatest number. -/
  most : Nat
  deriving DecidableEq, Repr

namespace Width

/-- The width of what takes no character. -/
def nothing : Width := ⟨0, 0⟩

/-- The width of a single character. -/
def single : Width := ⟨1, 1⟩

/-- A width counted up to the limits. -/
def capped (w : Width) : Width := ⟨min w.least (widthLimit - 1), min w.most widthLimit⟩

/-- The width of one part after another. -/
def add (v w : Width) : Width := ⟨v.least + w.least, v.most + w.most⟩

/-- The width of one part or another. -/
def or (v w : Width) : Width := ⟨min v.least w.least, max v.most w.most⟩

/-- The width of a repeated part. -/
def times (least : Nat) (most : Option Nat) (w : Width) : Width :=
  ⟨least * w.least, most.getD widthLimit * w.most⟩

/-- The width, if it is always the same. -/
def fixed? (w : Width) : Option Nat := if w.most = w.least then some w.least else none

end Width

mutual

/-- The width of a pattern, given the widths of the groups it refers to. -/
def width (known : Nat → Width) : Pattern → Width
  | .point .. => .single
  | .anything _ => .single
  | .oneOf .. => .single
  | .anchor _ => .nothing
  | .sequence parts => (widthAll known parts).capped
  | .choice branches => widthAny known branches
  | .scoped part => width known part
  | .capture _ part => width known part
  | .times least most _ part => (width known part).times least most
  | .again _ group => known group
  | .ahead .. => .nothing
  | .behind .. => .nothing
  | .atomic part => width known part
  | .ifMatched _ yes no => (width known yes).or (width known no)

/-- The width of patterns one after the other. -/
def widthAll (known : Nat → Width) : List Pattern → Width
  | [] => .nothing
  | part :: rest => (width known part).add (widthAll known rest)

/-- The width of one of several patterns. -/
def widthAny (known : Nat → Width) : List Pattern → Width
  | [] => .nothing
  | [branch] => width known branch
  | branch :: rest => (width known branch).or (widthAny known rest)

end

end Conform.Pattern
