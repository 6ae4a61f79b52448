import Conform.Pattern.Width
import Conform.Text.CharacterName
import Conform.Text.Integer
import Conform.Text.Name

/-! # Reading patterns

`Pattern.read` reads the text of a pattern: alternatives, repetitions, sets, escapes, groups with
and without a number, references to groups, conditions, looks ahead and behind, and flags. A pattern
whose form is wrong is refused as malformed; a number of repetitions that is too large and flags
that contradict each other are refused on their own grounds.

Reading also simplifies: alternatives that start alike are read as the common start and what
follows it, alternatives that are single characters as a set, and a group without a number that
changes no flags as its parts.
-/

namespace Conform.Pattern

/-- Why a text is no pattern. -/
inductive Fault
  | malformed
  | tooManyRepeats
  /-- A number of repetitions has too many digits to be read. -/
  | tooManyDigits (count : Nat)
  /-- The flags of the whole pattern ask for ASCII classes and for full classes. -/
  | clashingClasses
  deriving DecidableEq, Repr

/-- A character of a pattern, or one behind a backslash. -/
inductive Token
  | plain (value : Nat)
  | escaped (value : Nat)
  /-- A backslash at the end of the text. -/
  | dangling
  deriving DecidableEq, Repr

/-- The flags under which a part of a pattern is read. -/
structure Flags where
  /-- Case does not count. -/
  fold : Bool := false
  /-- `^` and `$` hold at every line. -/
  everyLine : Bool := false
  /-- The dot takes line feeds too. -/
  dotFeeds : Bool := false
  /-- White space and comments are skipped. -/
  spaced : Bool := false
  /-- Named classes hold ASCII characters only. -/
  ascii : Bool := false
  /-- Named classes have been asked to hold the characters of every script. -/
  full : Bool := false
  /-- Nothing may be repeated. -/
  unrepeated : Bool := false

/-- How letters and classes are read under flags. -/
def Flags.mode (flags : Flags) : Mode := ⟨flags.fold, flags.ascii⟩

/-- Where reading stands. -/
structure Cursor where
  /-- What is still to be read. -/
  rest : List Token
  /-- The widths of the groups from number zero on; a group that is open has none yet. -/
  widths : Array (Option Width)
  /-- The numbers of the groups that have a name. -/
  names : List (List Nat × Nat)
  /-- The number of groups when the outermost look behind was entered. -/
  outside : Option Nat
  /-- Groups that conditions ask for. -/
  asked : List Nat
  /-- The flags of the whole pattern. -/
  flags : Flags
  /-- A part was repeated. -/
  repeated : Bool
  /-- A look behind has a part whose width varies. -/
  unsteady : Bool

/-- A reader of a part of a pattern. -/
abbrev Reading := StateT Cursor (Except Fault)

namespace Reading

/-- The pattern is malformed. -/
def fail {α : Type} : Reading α := throw .malformed

/-- Goes on with the given tokens. A backslash at the end fails as soon as it is the next token. -/
def moveTo (rest : List Token) : Reading Unit := do
  if rest.head? == some .dangling then fail
  modify fun s => { s with rest }

/-- Takes the next token. -/
def next? : Reading (Option Token) := do
  match (← get).rest with
  | [] => return none
  | token :: rest =>
    moveTo rest
    return some token

/-- The next token, which stays. -/
def peek? : Reading (Option Token) := do return (← get).rest.head?

/-- Takes the next token if it is the given character. -/
def accept (c : Char) : Reading Bool := do
  if (← peek?) == some (.plain c.toNat) then
    let _ ← next?
    return true
  return false

/-- Takes the next token, which has to be the given character. -/
def expect (c : Char) : Reading Unit := do
  unless ← accept c do fail

/-- Takes plain characters of a kind, as many as there are but no more than a limit. -/
def takeWhile (kind : Nat → Bool) : Nat → Reading (List Nat)
  | 0 => return []
  | limit + 1 => do
    match ← peek? with
    | some (.plain n) =>
      if kind n then
        let _ ← next?
        return n :: (← takeWhile kind limit)
      return []
    | _ => return []

/-- The characters of a token as written. -/
def written : Token → List Nat
  | .plain n => [n]
  | .escaped n => ['\\'.toNat, n]
  | .dangling => ['\\'.toNat]

/-- Takes everything up to a closing character, which is dropped; there has to be something. -/
def takeUntil (close : Char) : Reading (List Nat) := do
  let s ← get
  let body := s.rest.takeWhile (· != .plain close.toNat)
  match s.rest.drop body.length with
  | [] => fail
  | _ :: rest =>
    if body.isEmpty then fail
    moveTo rest
    return body.flatMap written

end Reading

open Reading

/-- Octal digits. -/
def isOctal (n : Nat) : Bool := '0'.toNat ≤ n && n ≤ '7'.toNat

/-- The value of a hexadecimal digit. -/
def hexValue? (n : Nat) : Option Nat :=
  if Text.isAsciiDigit n then some (n - '0'.toNat)
  else if 'a'.toNat ≤ n && n ≤ 'f'.toNat then some (n - 'a'.toNat + 10)
  else if 'A'.toNat ≤ n && n ≤ 'F'.toNat then some (n - 'A'.toNat + 10)
  else none

/-- The number that digits spell in a base. -/
def numberOf (base : Nat) (digits : List Nat) : Nat :=
  digits.foldl (fun n d => n * base + (hexValue? d).getD 0) 0

/-- Reads the hexadecimal digits of an escape, which has exactly `count` of them. -/
def readHex (count : Nat) : Reading Nat := do
  let digits ← takeWhile (fun n => (hexValue? n).isSome) count
  unless digits.length = count do fail
  let n := numberOf 16 digits
  unless n < 0x110000 do fail
  return n

/-- Reads the name of a character between braces. -/
def readCharacterName : Reading Nat := do
  expect '\x7b'
  match Text.namedCharacter? (← takeUntil '\x7d') with
  | some n => return n
  | none => fail

/-- The character that an escape with a letter of its own stands for. -/
def controlEscape? (n : Nat) : Option Nat :=
  match Char.ofNat n with
  | 'a' => some 0x07
  | 'f' => some 0x0C
  | 'n' => some 0x0A
  | 'r' => some 0x0D
  | 't' => some 0x09
  | 'v' => some 0x0B
  | '\\' => some 0x5C
  | _ => none

/-- The class that an escape names. -/
def classEscape? (n : Nat) : Option SetItem :=
  match Char.ofNat n with
  | 'd' => some (.named .digit false)
  | 'D' => some (.named .digit true)
  | 's' => some (.named .blank false)
  | 'S' => some (.named .blank true)
  | 'w' => some (.named .word false)
  | 'W' => some (.named .word true)
  | _ => none

/-- The character of an escape that means the same inside and outside of sets. -/
def readPoint (n : Nat) : Reading Nat := do
  match controlEscape? n with
  | some value => return value
  | none =>
    match Char.ofNat n with
    | 'x' => readHex 2
    | 'u' => readHex 4
    | 'U' => readHex 8
    | 'N' => readCharacterName
    | _ =>
      if Text.isAsciiLetter n then fail
      return n

/-- The character of an octal escape; it has to fit into a byte. -/
def octalPoint (digits : List Nat) : Reading Nat := do
  let n := numberOf 8 digits
  unless n ≤ 0o377 do fail
  return n

/-- Checks that a group may be referred to inside a look behind: it is closed, and it does not
belong to the look behind that is being read. -/
def checkOutside (group : Nat) : Reading Unit := do
  let s ← get
  match s.outside with
  | some count => unless group < count && (s.widths[group]?.getD none).isSome do fail
  | none => return

/-- Checks that a group may be referred to here: it is closed, and it may be referred to inside a
look behind that is being read. -/
def checkGroup (group : Nat) : Reading Unit := do
  unless ((← get).widths[group]?.getD none).isSome do fail
  checkOutside group

/-- Reads what follows a backslash and a digit other than zero: three octal digits stand for a
character, anything else refers to a group. -/
def readNumbered (flags : Flags) (first : Nat) : Reading Pattern := do
  let second ← takeWhile Text.isAsciiDigit 1
  if isOctal first && !second.isEmpty && second.all isOctal then
    let third ← takeWhile isOctal 1
    if !third.isEmpty then
      return .point flags.mode false (← octalPoint (first :: second ++ third))
  let group := numberOf 10 (first :: second)
  checkGroup group
  return .again flags.mode group

/-- Reads an escape outside of sets. -/
def readEscape (flags : Flags) (n : Nat) : Reading Pattern := do
  match classEscape? n with
  | some item => return .oneOf flags.mode false [item]
  | none =>
    match Char.ofNat n with
    | 'A' => return .anchor (.start false)
    | 'Z' => return .anchor .veryEnd
    | 'b' => return .anchor (.wordEdge flags.ascii false)
    | 'B' => return .anchor (.wordEdge flags.ascii true)
    | '0' => return .point flags.mode false (numberOf 8 (← takeWhile isOctal 2))
    | _ =>
      if Text.isAsciiDigit n then readNumbered flags n
      else return .point flags.mode false (← readPoint n)

/-- Reads an escape inside a set. -/
def readSetEscape (n : Nat) : Reading SetItem := do
  match classEscape? n with
  | some item => return item
  | none =>
    if Char.ofNat n == 'b' then return .point 0x08
    if isOctal n then return .point (← octalPoint (n :: (← takeWhile isOctal 2)))
    if Text.isAsciiDigit n then fail
    return .point (← readPoint n)

/-- Reads a member of a set from its first token. -/
def readSetItem : Token → Reading SetItem
  | .plain n => return .point n
  | .escaped n => readSetEscape n
  | .dangling => fail

/-- Reads the members of a set up to its bracket. A bracket that comes first is a member. -/
def readSet (fuel : Nat) (found : List SetItem) : Reading (List SetItem) :=
  match fuel with
  | 0 => fail
  | fuel + 1 => do
    match ← next? with
    | none => fail
    | some token =>
      if token == .plain ']'.toNat && !found.isEmpty then return found.reverse
      let low ← readSetItem token
      if ← accept '-' then
        match ← next? with
        | none => fail
        | some token =>
          if token == .plain ']'.toNat then
            return (.point '-'.toNat :: low :: found).reverse
          match low, ← readSetItem token with
          | .point a, .point b =>
            if b < a then fail
            readSet fuel (.range a b :: found)
          | _, _ => fail
      else readSet fuel (low :: found)

/-- The pattern of a set; a single character stands for itself. -/
def setPattern (flags : Flags) (negated : Bool) (items : List SetItem) : Pattern :=
  match items.eraseDups with
  | [.point value] => .point flags.mode negated value
  | items => .oneOf flags.mode negated items

/-- Repetitions stay below this number. -/
def repeatLimit : Nat := 4294967295

/-- Numbers of repetitions have no more digits. -/
def repeatDigits : Nat := 4300

/-- The number of repetitions that digits spell; none are no number. -/
def repeatCount? (digits : List Nat) : Reading (Option Nat) := do
  if digits.isEmpty then return none
  if repeatDigits < digits.length then throw (.tooManyDigits digits.length)
  let n := numberOf 10 digits
  unless n < repeatLimit do throw .tooManyRepeats
  return some n

/-- Reads the bounds behind an opening brace. A brace that is not followed by bounds is a
character. -/
def readBounds? : Reading (Option (Nat × Option Nat)) := do
  let start ← get
  if (← peek?) == some (.plain 0x7D) then return none
  let low ← takeWhile Text.isAsciiDigit start.rest.length
  let high ← if ← accept ',' then takeWhile Text.isAsciiDigit start.rest.length else pure low
  unless ← accept '\x7d' do
    set start
    return none
  let least := (← repeatCount? low).getD 0
  let most ← repeatCount? high
  match most with
  | some m => if m < least then fail
  | none => pure ()
  return some (least, most)

/-- Repeats the latest part. Anchors and repetitions cannot be repeated. -/
def repeatLast (least : Nat) (most : Option Nat) : List Pattern → Reading (List Pattern)
  | [] => fail
  | .anchor _ :: _ => fail
  | .times .. :: _ => fail
  | part :: before => do
    modify fun s => { s with repeated := true }
    if ← accept '?' then return .times least most .reluctant part :: before
    if ← accept '+' then return .times least most .possessive part :: before
    return .times least most .greedy part :: before

/-- What an opening parenthesis introduces. -/
inductive Opening
  | comment
  | flags (all : Flags)
  | reference (group : Nat)
  | capture (name : Option (List Nat))
  | group
  | scoped (flags : Flags)
  | atomic
  | look (behind negated : Bool)
  | condition (group : Nat)

/-- Switches a flag on or off. The kind of classes can be chosen but not switched off. -/
def Flags.switch (on : Bool) (flags : Flags) (n : Nat) : Option Flags :=
  match Char.ofNat n with
  | 'i' => some { flags with fold := on }
  | 'm' => some { flags with everyLine := on }
  | 's' => some { flags with dotFeeds := on }
  | 'x' => some { flags with spaced := on }
  | 'a' => if on then some { flags with ascii := true } else none
  | 'u' => if on then some { flags with ascii := false, full := true } else none
  | 't' => if on then some { flags with unrepeated := true } else none
  | _ => none

/-- Switches flags one after the other. -/
def switchAll (on : Bool) (flags : Flags) (letters : List Nat) : Reading Flags :=
  match letters.foldlM (Flags.switch on) flags with
  | some flags => return flags
  | none => fail

/-- Switches flags of the whole pattern on, where a later flag takes none back. -/
def switchWhole (letters : List Nat) : Reading Flags := do
  let before := (← get).flags
  let after ← switchAll true before letters
  let flags := { after with ascii := before.ascii || letters.contains 'a'.toNat }
  modify fun s => { s with flags }
  return flags

/-- Reads the flags behind a question mark, of which the first letter or the sign has been taken. -/
def readFlags (flags : Flags) (first : Nat) : Reading Opening := do
  let size := (← get).rest.length
  let onlyOff := first == '-'.toNat
  let letters ← takeWhile Text.isAsciiLetter (if onlyOff then 0 else size)
  let on := if onlyOff then [] else first :: letters
  if on.contains 'a'.toNat && on.contains 'u'.toNat then fail
  if !onlyOff then
    if ← accept ')' then return .flags (← switchWhole on)
  let flags ← switchAll true flags on
  if on.contains 't'.toNat then fail
  let minus ← if onlyOff then pure true else accept '-'
  if !minus then
    expect ':'
    return .scoped flags
  let off ← takeWhile Text.isAsciiLetter size
  if off.isEmpty || off.any on.contains then fail
  let flags ← switchAll false flags off
  expect ':'
  return .scoped flags

/-- Numbers of groups stay below this one. -/
def groupLimit : Nat := 1073741823

/-- Reads the number or the name of a group that a condition asks for. -/
def readCondition : Reading Opening := do
  let name ← takeUntil ')'
  if Text.isName name then
    match (← get).names.lookup name with
    | some group =>
      checkOutside group
      return .condition group
    | none => fail
  match Text.integer? name with
  | none => fail
  | some n =>
    let group := n.toNat
    if group = 0 || groupLimit ≤ group then fail
    modify fun s => { s with asked := group :: s.asked }
    checkOutside group
    return .condition group

/-- Reads what follows `?P`. -/
def readNamed : Reading Opening := do
  if ← accept '<' then
    let name ← takeUntil '>'
    unless Text.isName name do fail
    return .capture (some name)
  expect '='
  let name ← takeUntil ')'
  unless Text.isName name do fail
  match (← get).names.lookup name with
  | some group =>
    checkGroup group
    return .reference group
  | none => fail

/-- Reads what stands behind an opening parenthesis up to the contents of the group. -/
def readOpening (flags : Flags) : Reading Opening := do
  unless ← accept '?' do return .capture none
  match ← next? with
  | some (.plain n) =>
    match Char.ofNat n with
    | 'P' => readNamed
    | ':' => return .group
    | '>' => return .atomic
    | '=' => return .look false false
    | '!' => return .look false true
    | '<' =>
      if ← accept '=' then return .look true false
      expect '!'
      return .look true true
    | '(' => readCondition
    | '#' =>
      match (← get).rest.dropWhile (· != .plain ')'.toNat) with
      | [] => fail
      | _ :: rest =>
        moveTo rest
        return .comment
    | _ => readFlags flags n
  | _ => fail

/-- Gives the next number to a group. A name belongs to one group only. -/
def openGroup (name : Option (List Nat)) : Reading Nat := do
  let s ← get
  let group := s.widths.size
  let names ←
    match name with
    | none => pure s.names
    | some name => if (s.names.lookup name).isSome then fail else pure ((name, group) :: s.names)
  set { s with widths := s.widths.push none, names }
  return group

/-- The width of a pattern that refers to closed groups only. -/
def widthHere (pattern : Pattern) : Reading Width := do
  let s ← get
  return width (fun group => (s.widths[group]?.getD none).getD .nothing) pattern

/-- White space that is skipped between the parts of a pattern. -/
def isSkipped (n : Nat) : Bool := n == 0x20 || (0x09 ≤ n && n ≤ 0x0D)

/-- Skips the rest of a line. -/
def skipLine : Reading Unit := do
  let ends (token : Token) : Bool := token == .plain 0x0A || token == .dangling
  match (← get).rest.dropWhile (!ends ·) with
  | [] => moveTo []
  | .dangling :: _ => fail
  | _ :: rest => moveTo rest

/-- A part of a pattern that is one character. -/
def readPlain (fuel : Nat) (flags : Flags) (n : Nat) : Reading Pattern := do
  match Char.ofNat n with
  | '.' => return .anything flags.dotFeeds
  | '^' => return .anchor (.start flags.everyLine)
  | '$' => return .anchor (.stop flags.everyLine)
  | '[' =>
    let negated ← accept '^'
    return setPattern flags negated (← readSet fuel [])
  | _ => return .point flags.mode false n

/-- The parts of an alternative, with those of a plain group in the place of the group. -/
def spliced (parts : List Pattern) : List Pattern :=
  parts.flatMap fun part =>
    match part with
    | .sequence inner => inner
    | part => [part]

/-- Whether two parts without parts of their own are the same. -/
def sameLeaf : Pattern → Pattern → Bool
  | .point _ negated value, .point _ negated' value' => negated == negated' && value == value'
  | .anything _, .anything _ => true
  | .oneOf _ negated items, .oneOf _ negated' items' => negated == negated' && items == items'
  | .anchor place, .anchor place' => place == place'
  | .again _ group, .again _ group' => group == group'
  | _, _ => false

/-- The parts that several alternatives start with, and what is left of each. -/
def commonStart : List Pattern → List (List Pattern) → List Pattern × List (List Pattern)
  | [], rest => ([], [] :: rest)
  | part :: parts, rest =>
    let startsAlike (branch : List Pattern) : Bool :=
      match branch with
      | other :: _ => sameLeaf part other
      | [] => false
    if rest.all startsAlike then
      let (start, left) := commonStart parts (rest.map (List.drop 1))
      (part :: start, left)
    else ([], (part :: parts) :: rest)

/-- The items of a set that takes what an alternative takes, if that is a single character or one of
a set. -/
def asItems? : List Pattern → Option (List SetItem)
  | [.point _ false value] => some [.point value]
  | [.oneOf _ false items] => some items
  | _ => none

/-- The pattern of several alternatives. -/
def alternatives (flags : Flags) : List (List Pattern) → Pattern
  | [] => .sequence []
  | [branch] => .sequence branch
  | branch :: rest =>
    let (start, left) := commonStart branch rest
    match left.mapM asItems? with
    | some items => .sequence (start ++ [.oneOf flags.mode false items.flatten.eraseDups])
    | none => .sequence (start ++ [.choice (left.map .sequence)])

mutual

/-- Reads alternatives up to a closing parenthesis or the end. Flags that the first alternative
sets hold for the later ones. -/
def readChoice (fuel : Nat) (flags : Flags) (outermost : Bool) (found : List (List Pattern)) :
    Reading Pattern :=
  match fuel with
  | 0 => fail
  | fuel + 1 => do
    let (branch, flags) ← readBranch fuel flags (outermost && found.isEmpty) []
    if ← accept '|' then readChoice fuel flags outermost (branch :: found)
    else return alternatives flags (branch :: found).reverse

/-- Reads the parts of an alternative; `found` holds the earlier ones in reverse. -/
def readBranch (fuel : Nat) (flags : Flags) (first : Bool) (found : List Pattern) :
    Reading (List Pattern × Flags) :=
  match fuel with
  | 0 => fail
  | fuel + 1 => do
    let ended := (spliced found.reverse, flags)
    match ← peek? with
    | none => return ended
    | some .dangling => fail
    | some (.escaped n) =>
      let _ ← next?
      readBranch fuel flags first ((← readEscape flags n) :: found)
    | some (.plain n) =>
      if n = '|'.toNat || n = ')'.toNat then return ended
      let _ ← next?
      if flags.spaced && isSkipped n then readBranch fuel flags first found
      else if flags.spaced && n = '#'.toNat then
        skipLine
        readBranch fuel flags first found
      else
        match Char.ofNat n with
        | '*' => readBranch fuel flags first (← repeatLast 0 none found)
        | '+' => readBranch fuel flags first (← repeatLast 1 none found)
        | '?' => readBranch fuel flags first (← repeatLast 0 (some 1) found)
        | '\x7b' =>
          match ← readBounds? with
          | none => readBranch fuel flags first (.point flags.mode false n :: found)
          | some (least, most) => readBranch fuel flags first (← repeatLast least most found)
        | '(' =>
          match ← readOpening flags with
          | .comment => readBranch fuel flags first found
          | .flags all =>
            if first && found.isEmpty then readBranch fuel all first found else fail
          | .reference group => readBranch fuel flags first (.again flags.mode group :: found)
          | opening =>
            let part ← readGroup fuel flags opening
            readBranch fuel flags first (part :: found)
        | _ => readBranch fuel flags first ((← readPlain fuel flags n) :: found)

/-- Reads the contents of a group and the parenthesis that closes it. -/
def readGroup (fuel : Nat) (flags : Flags) (opening : Opening) : Reading Pattern :=
  match fuel with
  | 0 => fail
  | fuel + 1 => do
    match opening with
    | .capture name =>
      let group ← openGroup name
      let part ← readChoice fuel flags false []
      expect ')'
      let w ← widthHere part
      modify fun s => { s with widths := s.widths.setIfInBounds group (some w) }
      return .capture group part
    | .group =>
      let part ← readChoice fuel flags false []
      expect ')'
      return part
    | .scoped inner =>
      let part ← readChoice fuel inner false []
      expect ')'
      return .scoped part
    | .atomic =>
      let part ← readChoice fuel flags false []
      expect ')'
      return .atomic part
    | .look false negated =>
      let part ← readChoice fuel flags false []
      expect ')'
      return .ahead negated part
    | .look true negated =>
      let outside := (← get).outside
      modify fun s => { s with outside := some (outside.getD s.widths.size) }
      let part ← readChoice fuel flags false []
      modify fun s => { s with outside }
      expect ')'
      match (← widthHere part).fixed? with
      | some width => return .behind negated width part
      | none =>
        modify fun s => { s with unsteady := true }
        return .behind negated 0 part
    | .condition group =>
      let (yes, _) ← readBranch fuel flags false []
      let no ← if ← accept '|' then (·.1) <$> readBranch fuel flags false [] else pure []
      expect ')'
      return .ifMatched group (.sequence yes) (.sequence no)
    | _ => fail

end

/-- The tokens of a pattern; a backslash takes the character behind it. -/
def tokens : List Nat → List Token
  | [] => []
  | [n] => if n = '\\'.toNat then [.dangling] else [.plain n]
  | n :: m :: rest =>
    if n = '\\'.toNat then .escaped m :: tokens rest else .plain n :: tokens (m :: rest)

/-- Reads a whole pattern. -/
def read (t : Text) : Except Fault Finder := do
  let all := tokens (t.map CodePoint.value)
  if all.head? == some .dangling then throw .malformed
  let reading := readChoice (4 * all.length + 4) {} true []
  let (pattern, s) ← reading.run ⟨all, #[none], [], none, [], {}, false, false⟩
  if s.flags.ascii && s.flags.full then throw .clashingClasses
  if !s.rest.isEmpty || s.asked.any (s.widths.size ≤ ·) || s.unsteady ||
      (s.flags.unrepeated && s.repeated) then throw .malformed
  return ⟨pattern, s.flags.ascii⟩

end Conform.Pattern
