import Conform.Text.CodePoint

/-! # Pointers into a document

A pointer names a place in a document by the keys and indices that lead to it. Each segment is
written behind a slash, with `~` and `/` escaped, so that the segments can be read back.
-/

namespace Conform

/-- One step from a value to a value inside it. -/
inductive Step
  | key (name : Text)
  | index (n : Int)
  deriving DecidableEq, Repr

/-- The segment of a step: its key, or its index in decimal. -/
def Step.segment : Step → Text
  | .key name => name
  | .index n => Text.ofString (toString n)

namespace Pointer

/-- The code point `~`. -/
def tilde : CodePoint := CodePoint.ofChar '~'

/-- The code point `/`. -/
def slash : CodePoint := CodePoint.ofChar '/'

/-- The escaped form of one code point. -/
def escapePoint (c : CodePoint) : Text :=
  if c = tilde then [tilde, CodePoint.ofChar '0']
  else if c = slash then [tilde, CodePoint.ofChar '1']
  else [c]

/-- A segment with `~` written `~0` and `/` written `~1`. -/
def escape (segment : Text) : Text := segment.flatMap escapePoint

/-- The pointer of a list of segments. -/
def ofSegments (segments : List Text) : Text := segments.flatMap fun s => slash :: escape s

/-- The pointer of a path. -/
def ofPath (path : List Step) : Text := ofSegments (path.map Step.segment)

/-- Reads an escaped segment; a tilde must be followed by `0` or `1`. -/
def unescape? : Text → Option Text
  | [] => some []
  | c :: rest =>
    if c = tilde then
      match rest with
      | [] => none
      | d :: rest =>
        if d = CodePoint.ofChar '0' then (unescape? rest).map (tilde :: ·)
        else if d = CodePoint.ofChar '1' then (unescape? rest).map (slash :: ·)
        else none
    else (unescape? rest).map (c :: ·)

/-- The segments of a pointer, if it is one. -/
def segments? : Text → Option (List Text)
  | [] => some []
  | c :: rest => if c = slash then (Text.splitOn slash rest).mapM unescape? else none

/-- Reads a segment in which a tilde may also stand alone. -/
def unescapeAll : Text → Text
  | [] => []
  | [c] => [c]
  | c :: d :: rest =>
    if c = tilde && d = CodePoint.ofChar '1' then slash :: unescapeAll rest
    else if c = tilde && d = CodePoint.ofChar '0' then tilde :: unescapeAll rest
    else c :: unescapeAll (d :: rest)

end Pointer

end Conform
