import Conform.Text.Quoted
import Conform.Text.Utf8
import Conform.Uri.Host

/-! # References to documents

The references of schemas are relative or absolute. A reference is split into its parts, joined with
the base it stands under, and separated from its fragment. Joining removes `.` and `..` segments of
the path; schemes that have no hierarchy are left alone.
-/

namespace Conform.Uri

/-- Code points of the delimiters. -/
def colon : CodePoint := CodePoint.ofChar ':'
/-- The code point `/`. -/
def slash : CodePoint := CodePoint.ofChar '/'
/-- The code point `#`. -/
def hash : CodePoint := CodePoint.ofChar '#'
/-- The code point `?`. -/
def question : CodePoint := CodePoint.ofChar '?'
/-- The code point `;`. -/
def semicolon : CodePoint := CodePoint.ofChar ';'
/-- The code point `%`. -/
def percent : CodePoint := CodePoint.ofChar '%'

/-- What is wrong with the authority of a reference. -/
inductive Fault
  /-- Brackets do not match, or something else stands beside the host in them. -/
  | misplacedBrackets
  /-- The host in brackets is an address of the fourth version. -/
  | bracketedVersion4
  /-- The host in brackets starts like an address of a later version. -/
  | badFuture
  /-- The host in brackets is no address. -/
  | noAddress (host : Text)
  /-- A character counts as a delimiter in its plain form. -/
  | disguisedDelimiter (authority : Text)
  deriving DecidableEq, Repr

/-- The wording of the fault. -/
def Fault.message : Fault → Text
  | .misplacedBrackets => Text.ofString "Invalid IPv6 URL"
  | .bracketedVersion4 => Text.ofString "An IPv4 address cannot be in brackets"
  | .badFuture => Text.ofString "IPvFuture address is invalid"
  | .noAddress host =>
    Text.ofString (Text.quoted host ++ " does not appear to be an IPv4 or IPv6 address")
  | .disguisedDelimiter authority =>
    Text.ofString "netloc '" ++ authority ++
      Text.ofString "' contains invalid characters under NFKC normalization"

/-- The parts of a reference. -/
structure Parts where
  /-- The scheme, in lower case. -/
  scheme : Text
  /-- The authority. -/
  authority : Text
  /-- The path without its parameters. -/
  path : Text
  /-- The parameters of the last segment. -/
  parameters : Text
  /-- The query. -/
  query : Text
  /-- The fragment. -/
  fragment : Text

/-- Schemes whose references may be relative. -/
def hierarchical : List String :=
  ["", "ftp", "http", "gopher", "nntp", "imap", "wais", "file", "https", "shttp", "mms",
    "prospero", "rtsp", "rtspu", "sftp", "svn", "svn+ssh", "ws", "wss"]

/-- Schemes that have an authority. -/
def withAuthority : List String :=
  ["", "ftp", "http", "gopher", "nntp", "telnet", "imap", "wais", "file", "mms", "https", "shttp",
    "snews", "prospero", "rtsp", "rtspu", "rsync", "svn", "svn+ssh", "sftp", "nfs", "git",
    "git+ssh", "ws", "wss"]

/-- Schemes whose last segment may have parameters. -/
def withParameters : List String :=
  ["", "ftp", "hdl", "prospero", "http", "imap", "https", "shttp", "rtsp", "rtspu", "sip", "sips",
     "mms", "sftp", "tel"]

/-- Whether a scheme is in a list. -/
def schemeIn (schemes : List String) (scheme : Text) : Bool :=
  schemes.any fun s => Text.ofString s == scheme

/-- ASCII letters. -/
def isLetter (n : Nat) : Bool := (0x41 ≤ n && n ≤ 0x5A) || (0x61 ≤ n && n ≤ 0x7A)

/-- ASCII letters, digits and three signs. -/
def isSchemePoint (n : Nat) : Bool :=
  isLetter n || (0x30 ≤ n && n ≤ 0x39) || n == 0x2B || n == 0x2D || n == 0x2E

/-- ASCII capitals as small letters. -/
def lowerPoint (c : CodePoint) : CodePoint :=
  if 0x41 ≤ c.value && c.value ≤ 0x5A then CodePoint.ofNat (c.value + 0x20) else c

/-- Without control characters and blanks in front, and without tabs and line ends anywhere. -/
def clean (url : Text) : Text :=
  (url.dropWhile fun c => c.value ≤ 0x20).filter fun c =>
    c.value ≠ 0x09 && c.value ≠ 0x0A && c.value ≠ 0x0D

/-- The scheme in front of a reference, and what follows its colon. -/
def scheme? (url : Text) : Option (Text × Text) :=
  match Text.cut? colon url with
  | some (head, rest) =>
    match head with
    | first :: _ =>
      if isLetter first.value && head.all (fun c => isSchemePoint c.value) then
        some (head.map lowerPoint, rest)
      else none
    | [] => none
  | none => none

/-- The part before the first code point of a kind, and the part from it on. -/
def breakAt (stop : CodePoint → Bool) (t : Text) : Text × Text :=
  (t.takeWhile fun c => !stop c, t.dropWhile fun c => !stop c)

/-- Separates what follows the first separator. -/
def cutTail (separator : CodePoint) (t : Text) : Text × Text :=
  (Text.cut? separator t).getD (t, [])

/-- Separates the parameters of the last segment of a path. -/
def cutParameters (path : Text) : Text × Text :=
  let (before, last) :=
    if path.contains slash then
      let (last, before) := breakAt (· == slash) path.reverse
      (before.reverse, last.reverse)
    else ([], path)
  match Text.cut? semicolon last with
  | some (head, parameters) => (before ++ head, parameters)
  | none => (path, [])

/-- Checks a host in brackets. -/
def checkHost (host : Text) : Except Fault Unit :=
  if host.head? == some (CodePoint.ofChar 'v') then
    if Host.isFuture host then .ok () else .error .badFuture
  else if Host.isVersion4 host then .error .bracketedVersion4
  else if Host.isVersion6 host then .ok ()
  else .error (.noAddress host)

/-- Checks the brackets of an authority. They stand around the whole host: behind the user, and
before the port. -/
def checkBrackets (authority : Text) : Except Fault Unit := do
  let opening := CodePoint.ofChar '['
  let closing := CodePoint.ofChar ']'
  if authority.contains opening != authority.contains closing then throw .misplacedBrackets
  if !authority.contains opening then return
  let host := (breakAt (· == CodePoint.ofChar '@') authority.reverse).1.reverse
  match Text.cut? opening host with
  | none => checkHost (cutTail colon host).1
  | some (before, rest) =>
    let (host, port) := cutTail closing rest
    if !before.isEmpty || (!port.isEmpty && port.head? != some colon) then throw .misplacedBrackets
    checkHost host

/-- Characters whose plain form holds a delimiter. -/
def disguised : List Nat := [
  0x2047, 0x2048, 0x2049, 0x2100, 0x2101, 0x2105, 0x2106, 0x2A74, 0xFE13, 0xFE16, 0xFE55, 0xFE56,
  0xFE5F, 0xFE6B, 0xFF03, 0xFF0F, 0xFF1A, 0xFF1F, 0xFF20]

/-- Splits a reference. One without a scheme gets the given one, and the parameters stay in the
path. -/
def split (url inherited : Text) : Except Fault Parts := do
  let url := clean url
  let (scheme, url) := (scheme? url).getD (inherited, url)
  let (authority, url) :=
    match url with
    | a :: b :: rest =>
      if a = slash && b = slash then
        breakAt (fun c => c == slash || c == question || c == hash) rest
      else ([], url)
    | _ => ([], url)
  checkBrackets authority
  if authority.any fun c => disguised.contains c.value then throw (.disguisedDelimiter authority)
  let (url, fragment) := cutTail hash url
  let (path, query) := cutTail question url
  return ⟨scheme, authority, path, [], query, fragment⟩

/-- The parts with the parameters of the path on their own, where the scheme has parameters. -/
def Parts.separated (p : Parts) : Parts :=
  if schemeIn withParameters p.scheme && p.path.contains semicolon then
    let (path, parameters) := cutParameters p.path
    { p with path, parameters }
  else p

/-- Splits a reference into all its parts. -/
def parse (url inherited : Text) : Except Fault Parts := do
  return (← split url inherited).separated

/-- Puts the parts together again. Empty queries and fragments leave no trace. -/
def Parts.text (p : Parts) : Text :=
  let path := if p.parameters.isEmpty then p.path else p.path ++ semicolon :: p.parameters
  let url :=
    if !p.authority.isEmpty ||
        (!p.scheme.isEmpty && schemeIn withAuthority p.scheme && path.take 2 != [slash, slash]) then
      let path := if !path.isEmpty && path.head? != some slash then slash :: path else path
      slash :: slash :: (p.authority ++ path)
    else path
  let url := if p.scheme.isEmpty then url else p.scheme ++ colon :: url
  let url := if p.query.isEmpty then url else url ++ question :: p.query
  if p.fragment.isEmpty then url else url ++ hash :: p.fragment

/-- Removes `.` segments, and `..` segments with the segment before them; `kept` is in reverse. -/
def removeDots (kept : List Text) : List Text → List Text
  | [] => kept.reverse
  | segment :: rest =>
    if segment = Text.ofString ".." then removeDots (kept.drop 1) rest
    else if segment = Text.ofString "." then removeDots kept rest
    else removeDots (segment :: kept) rest

/-- The segments without the empty ones between the first and the last. -/
def dropInnerEmpty (segments : List Text) : List Text :=
  match segments with
  | [] => []
  | first :: rest =>
    match rest.reverse with
    | [] => [first]
    | last :: inner => first :: ((inner.reverse.filter fun s => !s.isEmpty) ++ [last])

/-- The path of a reference seen from the path of its base. -/
def resolvePath (base path : Text) : Text :=
  let baseSegments := Text.splitOn slash base
  let baseSegments :=
    if baseSegments.getLast? == some [] then baseSegments else baseSegments.dropLast
  let segments :=
    if path.head? == some slash then Text.splitOn slash path
    else dropInnerEmpty (baseSegments ++ Text.splitOn slash path)
  let resolved := removeDots [] segments
  let dotted (s : Text) : Bool := s == Text.ofString "." || s == Text.ofString ".."
  let resolved := if (segments.getLast?.map dotted).getD false then resolved ++ [[]] else resolved
  let joined := Text.join [slash] resolved
  if joined.isEmpty then [slash] else joined

/-- The absolute form of a reference under a base. -/
def join (base reference : Text) : Except Fault Text := do
  if base.isEmpty then return reference
  if reference.isEmpty then return base
  let b ← parse base []
  let r ← parse reference b.scheme
  if r.scheme != b.scheme || !schemeIn hierarchical r.scheme then return reference
  if schemeIn withAuthority r.scheme && !r.authority.isEmpty then return r.text
  let authority := if schemeIn withAuthority r.scheme then b.authority else r.authority
  if r.path.isEmpty && r.parameters.isEmpty then
    let query := if r.query.isEmpty then b.query else r.query
    return { r with authority, path := b.path, parameters := b.parameters, query }.text
  return { r with authority, path := resolvePath b.path r.path }.text

/-- A reference without its fragment, and the fragment. -/
def cutFragment (url : Text) : Except Fault (Text × Text) := do
  if !url.contains hash then return (url, [])
  let p ← parse url []
  return ({ p with fragment := [] }.text, p.fragment)

/-- The form in which references to schema languages are compared. -/
def normalize (url : Text) : Except Fault Text := do
  let p ← split url []
  return p.text

/-- A reference without the empty fragment at its end. -/
def trimHashes (url : Text) : Text := (url.reverse.dropWhile (· == hash)).reverse

/-- The value of a hexadecimal digit. -/
def hexValue? (n : Nat) : Option Nat :=
  if 0x30 ≤ n && n ≤ 0x39 then some (n - 0x30)
  else if 0x61 ≤ n && n ≤ 0x66 then some (n - 0x61 + 10)
  else if 0x41 ≤ n && n ≤ 0x46 then some (n - 0x41 + 10)
  else none

/-- The bytes of an ASCII text in which `%` and two digits stand for a byte. -/
def percentBytes : Text → List UInt8
  | c :: a :: b :: rest =>
    match c == percent, hexValue? a.value, hexValue? b.value with
    | true, some x, some y => UInt8.ofNat (x * 16 + y) :: percentBytes rest
    | _, _, _ => UInt8.ofNat c.value :: percentBytes (a :: b :: rest)
  | c :: rest => UInt8.ofNat c.value :: percentBytes rest
  | [] => []
  termination_by t => t.length

/-- Splits a text into runs of ASCII and runs of other code points. -/
def asciiRuns (t : Text) : List (Bool × Text) :=
  t.foldr (fun c runs =>
    let ascii : Bool := c.value < 0x80
    match runs with
    | (kind, run) :: rest =>
      if kind == ascii then (kind, c :: run) :: rest else (ascii, [c]) :: runs
    | [] => [(ascii, [c])]) []

/-- A text with its percent escapes decoded as UTF-8. -/
def unescape (t : Text) : Text :=
  if t.contains percent then
    (asciiRuns t).flatMap fun (ascii, run) =>
      if ascii then (Text.Utf8.decodeLossy (percentBytes run)).map CodePoint.ofChar else run
  else t

end Conform.Uri
