import Conform.Text.Class
import Conform.Text.CodePoint

/-! # Hosts in brackets

The host of an address stands in brackets if it is an address of the sixth version of the protocol
or of a later one.
-/

namespace Conform.Uri.Host

/-- A number from 0 to 255 in decimal, without a leading zero. -/
def isOctet (t : Text) : Bool :=
  match t with
  | [] => false
  | first :: rest =>
    t.all (fun c => Text.isAsciiDigit c.value) && (first != CodePoint.ofChar '0' || rest.isEmpty) &&
      t.length ≤ 3 && t.foldl (fun n c => n * 10 + (c.value - 0x30)) 0 ≤ 255

/-- Four octets with points between. -/
def isVersion4 (host : Text) : Bool :=
  let octets := Text.splitOn (CodePoint.ofChar '.') host
  octets.length == 4 && octets.all isOctet

/-- Hexadecimal digits. -/
def isHexDigit (n : Nat) : Bool :=
  Text.isAsciiDigit n || (0x41 ≤ n && n ≤ 0x46) || (0x61 ≤ n && n ≤ 0x66)

/-- One to four hexadecimal digits. -/
def isGroup (t : Text) : Bool :=
  !t.isEmpty && t.length ≤ 4 && t.all fun c => isHexDigit c.value

/-- The parts between colons, with two groups in the place of a last part that is four octets. -/
def groups? (parts : List Text) : Option (List Text) :=
  match parts.getLast? with
  | none => none
  | some last =>
    if last.contains (CodePoint.ofChar '.') then
      if isVersion4 last then
        some (parts.dropLast ++ [Text.ofString "0", Text.ofString "0"])
      else none
    else some parts

/-- Eight groups, or fewer with one empty part that stands for the groups left out. At an end it
takes two empty parts to leave groups out. -/
def areGroups (parts : List Text) : Bool :=
  match parts, parts.getLast? with
  | first :: rest, some last =>
    let inner := rest.dropLast
    let before := inner.takeWhile fun part => !part.isEmpty
    match inner.drop before.length with
    | [] => parts.length == 8 && parts.all isGroup
    | _ :: after =>
      let given := (if first.isEmpty then before else first :: before) ++
        (if last.isEmpty then after else after ++ [last])
      (!first.isEmpty || before.isEmpty) && (!last.isEmpty || after.isEmpty) &&
        given.length < 8 && given.all isGroup
  | _, _ => false

/-- Groups with colons between, and perhaps a zone behind a percent sign. -/
def isVersion6 (host : Text) : Bool :=
  let (address, zoned) :=
    match Text.cut? (CodePoint.ofChar '%') host with
    | some (address, zone) =>
      (address, !zone.isEmpty && !zone.contains (CodePoint.ofChar '%'))
    | none => (host, true)
  let parts := Text.splitOn (CodePoint.ofChar ':') address
  zoned && 3 ≤ parts.length &&
    match groups? parts with
    | some parts => parts.length ≤ 9 && areGroups parts
    | none => false

/-- A version in hexadecimal digits behind a `v`, a point, and something more. -/
def isFuture (host : Text) : Bool :=
  match host with
  | _ :: rest =>
    match Text.cut? (CodePoint.ofChar '.') rest with
    | some (version, more) =>
      !version.isEmpty && version.all (fun c => isHexDigit c.value) && !more.isEmpty
    | none => false
  | [] => false

end Conform.Uri.Host
