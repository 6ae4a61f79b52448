import Conform.Text.CodePoint

/-! # UTF-8

Files are bytes. `decode` reads them as UTF-8 and says, for the first byte sequence that is none,
where it stands and what is wrong with it; `decodeLossy` puts a replacement character in the place
of each. A malformed sequence ends where no continuation of it could be valid.
-/

namespace Conform.Text.Utf8

/-- What is wrong with a byte sequence. -/
inductive Reason
  | badStart
  | badContinuation
  | endOfData
  deriving DecidableEq, Repr

/-- The wording of a reason. -/
def Reason.message : Reason → String
  | .badStart => "invalid start byte"
  | .badContinuation => "invalid continuation byte"
  | .endOfData => "unexpected end of data"

/-- A malformed byte sequence: its first byte, the index of that byte, its length and what is
wrong. -/
structure Malformed where
  /-- The first byte of the sequence. -/
  byte : UInt8
  /-- The index of that byte. -/
  start : Nat
  /-- The number of bytes of the sequence. -/
  length : Nat
  /-- What is wrong. -/
  reason : Reason
  deriving DecidableEq, Repr

/-- The wording of an error: a single byte is shown, several are counted. -/
def Malformed.message (m : Malformed) : String :=
  let place :=
    if m.length = 1 then
      let digits := Nat.toDigits 16 m.byte.toNat
      let padded := List.replicate (2 - digits.length) '0' ++ digits
      "byte 0x" ++ String.ofList padded ++ " in position " ++ toString m.start
    else
      "bytes in position " ++ toString m.start ++ "-" ++ toString (m.start + m.length - 1)
  "'utf-8' codec can't decode " ++ place ++ ": " ++ m.reason.message

/-- What a first byte announces: the number of bytes that follow, the range of the next one, and
the bits it contributes. -/
def lead? (b : UInt8) : Option (Nat × Nat × Nat × Nat) :=
  let n := b.toNat
  if n < 0x80 then some (0, 0, 0, n)
  else if 0xC2 ≤ n && n ≤ 0xDF then some (1, 0x80, 0xBF, n - 0xC0)
  else if n = 0xE0 then some (2, 0xA0, 0xBF, 0)
  else if n = 0xED then some (2, 0x80, 0x9F, 0x0D)
  else if 0xE1 ≤ n && n ≤ 0xEF then some (2, 0x80, 0xBF, n - 0xE0)
  else if n = 0xF0 then some (3, 0x90, 0xBF, 0)
  else if 0xF1 ≤ n && n ≤ 0xF3 then some (3, 0x80, 0xBF, n - 0xF0)
  else if n = 0xF4 then some (3, 0x80, 0x8F, 4)
  else none

/-- What was read of a sequence whose first byte stands at an index. -/
structure Pending where
  /-- The first byte. -/
  byte : UInt8
  /-- Its index. -/
  start : Nat
  /-- The number of bytes read. -/
  read : Nat
  /-- The number of bytes still owed. -/
  owed : Nat
  /-- The least the next byte may be. -/
  low : Nat
  /-- The greatest the next byte may be. -/
  high : Nat
  /-- The bits so far. -/
  bits : Nat

/-- The sequence read so far, as malformed. -/
def Pending.malformed (p : Pending) (reason : Reason) : Malformed :=
  ⟨p.byte, p.start, p.read, reason⟩

/-- Decodes from an index on. `found` holds what was decoded, in reverse; `pending` is an unfinished
sequence. A malformed sequence goes to `onError`, which supplies a character for it or stops. -/
def decodeFrom (onError : Malformed → Except Malformed Char) (index : Nat) (found : List Char)
    (pending : Option Pending) : List UInt8 → Except Malformed (List Char)
  | [] =>
    match pending with
    | none => .ok found.reverse
    | some p =>
      match onError (p.malformed .endOfData) with
      | .error m => .error m
      | .ok c => .ok (c :: found).reverse
  | b :: rest =>
    let begin (found : List Char) : Except Malformed (List Char) :=
      match lead? b with
      | some (0, _, _, bits) => decodeFrom onError (index + 1) (Char.ofNat bits :: found) none rest
      | some (owed, low, high, bits) =>
        decodeFrom onError (index + 1) found (some ⟨b, index, 1, owed, low, high, bits⟩) rest
      | none =>
        match onError ⟨b, index, 1, .badStart⟩ with
        | .error m => .error m
        | .ok c => decodeFrom onError (index + 1) (c :: found) none rest
    match pending with
    | none => begin found
    | some p =>
      let n := b.toNat
      if p.low ≤ n && n ≤ p.high then
        let bits := p.bits * 0x40 + (n - 0x80)
        if p.owed ≤ 1 then decodeFrom onError (index + 1) (Char.ofNat bits :: found) none rest
        else
          let p := { p with read := p.read + 1, owed := p.owed - 1, low := 0x80, high := 0xBF, bits }
          decodeFrom onError (index + 1) found (some p) rest
      else
        match onError (p.malformed .badContinuation) with
        | .error m => .error m
        | .ok c => begin (c :: found)

/-- Decodes a byte sequence or reports the first malformed part of it. -/
def decode (bytes : List UInt8) : Except Malformed (List Char) :=
  decodeFrom .error 0 [] none bytes

/-- Decodes a byte sequence with a replacement character for each malformed part. -/
def decodeLossy (bytes : List UInt8) : List Char :=
  match decodeFrom (fun _ => .ok '\uFFFD') 0 [] none bytes with
  | .ok cs => cs
  | .error _ => []

/-- Line ends as single line feeds: a carriage return counts as one, alone or before a feed. -/
def foldLineEnds : List Char → List Char
  | '\r' :: '\n' :: rest => '\n' :: foldLineEnds rest
  | '\r' :: rest => '\n' :: foldLineEnds rest
  | c :: rest => c :: foldLineEnds rest
  | [] => []

/-- The text of a file: decoded, without a byte order mark at its start, with line feeds only. -/
def fileText (bytes : List UInt8) : Except Malformed String :=
  match decode bytes with
  | .error m => .error m
  | .ok cs =>
    let body :=
      match cs with
      | '\uFEFF' :: rest => rest
      | _ => cs
    .ok (String.ofList (foldLineEnds body))

end Conform.Text.Utf8
