import Conform.Pattern.Member

/-! # Searching for a pattern

`Finder.findIn` says whether a pattern matches somewhere in a text. Matching goes through the tree
with a continuation for what comes after a node, and tries the alternatives of a node in order, so
the first way to match is the one a reader expects; a repetition does not go on after a round that
took no character.

Groups leave marks where they start and stop. An attempt that fails hands back the marks as it left
them, for a node that goes on to another attempt takes them back in its own way: inside the rounds
of a repetition to what they were, elsewhere only by dropping those of groups that had no mark
before.
-/

namespace Conform.Pattern

/-- The text that is searched. -/
abbrev Subject := Array Nat

/-- Where the groups started and stopped last: the start of group `g` at `2 * (g - 1)`, its stop
behind it. A mark that was passed over is empty. -/
abbrev Marks := Array (Option Nat)

namespace Marks

/-- Sets a mark. -/
def put (marks : Marks) (i position : Nat) : Marks :=
  if i < marks.size then marks.setIfInBounds i (some position)
  else (marks ++ Array.replicate (i - marks.size) none).push (some position)

/-- What a group matched last; a group that has been entered again since has matched nothing. -/
def span? (marks : Marks) (group : Nat) : Option (Nat × Nat) :=
  match marks[2 * (group - 1)]?, marks[2 * (group - 1) + 1]? with
  | some (some start), some (some stop) => if start ≤ stop then some (start, stop) else none
  | _, _ => none

/-- Takes marks back to what was saved: all of them, or only their number. -/
def back (marks : Marks) (whole : Bool) (saved : Marks) : Marks :=
  if whole then saved else marks.extract 0 saved.size

/-- Whether a group stops before it starts, as one does that was left while it was entered
again. -/
def tangled : List (Option Nat) → Bool
  | some start :: some stop :: rest => stop < start || tangled rest
  | _ :: _ :: rest => tangled rest
  | _ => false

end Marks

/-- Where matching stands. -/
structure Place where
  /-- The position of the next character. -/
  position : Nat
  /-- The marks of the groups. -/
  marks : Marks

/-- The result of an attempt to match. -/
inductive Attempt
  | matched (place : Place)
  /-- The attempt failed and left these marks. -/
  | failed (marks : Marks)

/-- What is to be matched after a node. -/
abbrev Continuation := Place → Attempt

/-- Whether the character at a position is a word character. -/
def wordAt (ascii : Bool) (subject : Subject) (position : Nat) : Bool :=
  match subject[position]? with
  | some n => CharClass.word.holds ascii n
  | none => false

/-- Whether an anchor holds at a position. -/
def holdsAt (subject : Subject) (position : Nat) : Anchor → Bool
  | .start everyLine =>
    position == 0 || (everyLine && subject[position - 1]? == some 0x0A)
  | .stop everyLine =>
    position == subject.size ||
      (subject[position]? == some 0x0A && (everyLine || position + 1 == subject.size))
  | .veryEnd => position == subject.size
  | .wordEdge ascii negated =>
    let before := position != 0 && wordAt ascii subject (position - 1)
    ((before != wordAt ascii subject position) != negated) && !subject.isEmpty

/-- Whether the characters from `start` on stand again at a position, as many as `count`. -/
def standsAgain (mode : Mode) (subject : Subject) (start position : Nat) : Nat → Bool
  | 0 => true
  | count + 1 =>
    match subject[start]?, subject[position]? with
    | some a, some b =>
      alike mode a b && standsAgain mode subject (start + 1) (position + 1) count
    | _, _ => false

/-- How many characters from a position on a pattern for single characters takes, up to a limit. -/
def runLength (subject : Subject) (part : Pattern) (position : Nat) : Nat → Nat
  | 0 => 0
  | limit + 1 =>
    match subject[position]? with
    | some n => if takes n part then 1 + runLength subject part (position + 1) limit else 0
    | none => 0

/-- Goes on after `floor + extra` characters, else after one less, down to `floor`. -/
def tryDown (whole : Bool) (saved : Marks) (next : Continuation) (floor : Nat) :
    Nat → Marks → Attempt
  | 0, marks =>
    match next ⟨floor, marks⟩ with
    | .matched place => .matched place
    | .failed marks => .failed (marks.back whole saved)
  | extra + 1, marks =>
    match next ⟨floor + (extra + 1), marks⟩ with
    | .matched place => .matched place
    | .failed marks => tryDown whole saved next floor extra (marks.back whole saved)

/-- Goes on at a position, else one further, up to `extra` further. -/
def tryUp (whole : Bool) (saved : Marks) (next : Continuation) (position : Nat) :
    Nat → Marks → Attempt
  | 0, marks =>
    match next ⟨position, marks⟩ with
    | .matched place => .matched place
    | .failed marks => .failed (marks.back whole saved)
  | extra + 1, marks =>
    match next ⟨position, marks⟩ with
    | .matched place => .matched place
    | .failed marks => tryUp whole saved next (position + 1) extra (marks.back whole saved)

/-- Repeats a pattern for single characters. -/
def repeatSingle (whole : Bool) (subject : Subject) (least : Nat) (most : Option Nat)
    (greed : Greed) (part : Pattern) (place : Place) (next : Continuation) : Attempt :=
  let left := subject.size - place.position
  let count := runLength subject part place.position (min left (most.getD left))
  if count < least then .failed place.marks
  else
    match greed with
    | .greedy =>
      tryDown whole place.marks next (place.position + least) (count - least) place.marks
    | .reluctant =>
      tryUp whole place.marks next (place.position + least) (count - least) place.marks
    | .possessive => next ⟨place.position + count, place.marks⟩

/-- Whether a further round may follow `count` rounds. `last` is where the latest free round
started. -/
def mayGoOn (most : Option Nat) (count : Nat) (last : Option Nat) (position : Nat) : Bool :=
  (match most with
    | some most => count < most
    | none => true) && last != some position

/-- Repeats a part from its `count`-th round on, as often as possible first. -/
def repeatGreedy (round : Place → Continuation → Attempt) (least : Nat) (most : Option Nat)
    (next : Continuation) (fuel count : Nat) (last : Option Nat) (place : Place) : Attempt :=
  match fuel with
  | 0 => .failed place.marks
  | fuel + 1 =>
    if count < least then
      round place fun p => repeatGreedy round least most next fuel (count + 1) last p
    else if mayGoOn most count last place.position then
      let goOn : Continuation := fun p =>
        repeatGreedy round least most next fuel (count + 1) (some place.position) p
      match round place goOn with
      | .matched p => .matched p
      | .failed _ => next place
    else next place

/-- Repeats a part from its `count`-th round on, as rarely as possible first. -/
def repeatReluctant (whole : Bool) (round : Place → Continuation → Attempt) (least : Nat)
    (most : Option Nat) (next : Continuation) (fuel count : Nat) (last : Option Nat)
    (place : Place) : Attempt :=
  match fuel with
  | 0 => .failed place.marks
  | fuel + 1 =>
    if count < least then
      round place fun p => repeatReluctant whole round least most next fuel (count + 1) last p
    else
      match next place with
      | .matched p => .matched p
      | .failed marks =>
        let marks := marks.back whole place.marks
        if mayGoOn most count last place.position then
          round { place with marks } fun p =>
            repeatReluctant whole round least most next fuel (count + 1) (some place.position) p
        else .failed marks

/-- Repeats a part from its `count`-th round on, each round in the first way it matches. -/
def repeatPossessive (round : Place → Attempt) (least : Nat) (most : Option Nat)
    (fuel count : Nat) (last : Option Nat) (place : Place) : Attempt :=
  match fuel with
  | 0 => .failed place.marks
  | fuel + 1 =>
    if count < least then
      match round place with
      | .matched p => repeatPossessive round least most fuel (count + 1) last p
      | .failed marks => .failed marks
    else if mayGoOn most count last place.position then
      match round place with
      | .matched p =>
        repeatPossessive round least most fuel (count + 1) (some place.position) p
      | .failed _ => .matched place
    else .matched place

mutual

/-- Matches a pattern at a place and then what follows it. `whole` says that a failure takes the
marks back whole, as it does inside the rounds of a repetition. -/
def run (subject : Subject) (whole : Bool) (pattern : Pattern) (place : Place)
    (next : Continuation) : Attempt :=
  match pattern with
  | .point mode negated value =>
    match subject[place.position]? with
    | some n =>
      if countsAs mode value n != negated then
        next { place with position := place.position + 1 }
      else .failed place.marks
    | none => .failed place.marks
  | .anything feeds =>
    match subject[place.position]? with
    | some n =>
      if feeds || n != 0x0A then next { place with position := place.position + 1 }
      else .failed place.marks
    | none => .failed place.marks
  | .oneOf mode negated items =>
    match subject[place.position]? with
    | some n =>
      if inSet mode items n != negated then
        next { place with position := place.position + 1 }
      else .failed place.marks
    | none => .failed place.marks
  | .anchor mark => if holdsAt subject place.position mark then next place else .failed place.marks
  | .sequence parts => runAll subject whole parts place next
  | .choice branches => runAny subject whole place.marks branches place next
  | .scoped part => run subject whole part place next
  | .capture group part =>
    let start := { place with marks := place.marks.put (2 * (group - 1)) place.position }
    run subject whole part start fun p =>
      next { p with marks := p.marks.put (2 * (group - 1) + 1) p.position }
  | .times least most greed part =>
    if isSingle part then repeatSingle whole subject least most greed part place next
    else
      let fuel := least + subject.size + 2
      let round (p : Place) (k : Continuation) : Attempt := run subject true part p k
      match greed with
      | .greedy => repeatGreedy round least most next fuel 0 none place
      | .reluctant => repeatReluctant whole round least most next fuel 0 none place
      | .possessive =>
        let once (p : Place) : Attempt := run subject whole part p .matched
        match repeatPossessive once least most fuel 0 none place with
        | .matched p => next p
        | .failed marks => .failed marks
  | .again mode group =>
    match place.marks.span? group with
    | some (start, stop) =>
      if standsAgain mode subject start place.position (stop - start) then
        next { place with position := place.position + (stop - start) }
      else .failed place.marks
    | none => .failed place.marks
  | .ahead negated part =>
    match run subject whole part place .matched with
    | .matched p => if negated then .failed p.marks else next { place with marks := p.marks }
    | .failed marks =>
      if negated then next { place with marks := marks.back whole place.marks }
      else .failed marks
  | .behind negated width part =>
    if width ≤ place.position then
      match run subject whole part { place with position := place.position - width } .matched with
      | .matched p => if negated then .failed p.marks else next { place with marks := p.marks }
      | .failed marks =>
        if negated then next { place with marks := marks.back whole place.marks }
        else .failed marks
    else if negated then next place
    else .failed place.marks
  | .atomic part =>
    match run subject whole part place .matched with
    | .matched p => next p
    | .failed marks => .failed marks
  | .ifMatched group yes no =>
    if (place.marks.span? group).isSome then run subject whole yes place next
    else run subject whole no place next

/-- Matches patterns one after the other. -/
def runAll (subject : Subject) (whole : Bool) (parts : List Pattern) (place : Place)
    (next : Continuation) : Attempt :=
  match parts with
  | [] => next place
  | part :: rest => run subject whole part place fun p => runAll subject whole rest p next

/-- Matches the first of several patterns after which the rest matches. -/
def runAny (subject : Subject) (whole : Bool) (saved : Marks) (branches : List Pattern)
    (place : Place) (next : Continuation) : Attempt :=
  match branches with
  | [] => .failed place.marks
  | branch :: rest =>
    match run subject whole branch place next with
    | .matched p => .matched p
    | .failed marks =>
      runAny subject whole saved rest { place with marks := marks.back whole saved } next

end

/-- The set that the first character of a match belongs to, for a pattern that starts with a set
whose letters have one form only. -/
def opening? : Pattern → Option (Bool × List SetItem)
  | .oneOf mode negated items =>
    if mode.fold && items.any (SetItem.varies mode.ascii) then none else some (negated, items)
  | .sequence (part :: _) => opening? part
  | .scoped part => opening? part
  | .capture _ part => opening? part
  | _ => none

/-- What a search comes to. -/
inductive Finding
  | absent
  | present
  /-- A match was found in which a group stops before it starts. -/
  | tangled
  deriving DecidableEq, Repr

/-- The finding of the first match at one of `count` positions from `position` on at which a match
may start. -/
def findFrom (starts : Nat → Bool) (subject : Subject) (pattern : Pattern) (position : Nat) :
    Nat → Finding
  | 0 => .absent
  | count + 1 =>
    let attempt :=
      if starts position then run subject false pattern ⟨position, #[]⟩ .matched else .failed #[]
    match attempt with
    | .matched place => if Marks.tangled place.marks.toList then .tangled else .present
    | .failed _ => findFrom starts subject pattern (position + 1) count

namespace Finder

/-- Whether a match may start at a position. A pattern that starts with a set is looked for where the
next character belongs to the set, in which the named classes are those of the pattern as a whole,
whatever the group around the set says. -/
def mayStart (finder : Finder) (subject : Subject) : Nat → Bool :=
  match opening? finder.pattern with
  | none => fun _ => true
  | some (negated, items) =>
    fun position =>
      match subject[position]? with
      | some n => items.any (SetItem.holds finder.ascii n) != negated
      | none => false

/-- Whether a pattern matches somewhere in a text. -/
def findIn (finder : Finder) (t : Text) : Finding :=
  let subject : Subject := (t.map CodePoint.value).toArray
  findFrom (finder.mayStart subject) subject finder.pattern 0 (subject.size + 1)

end Finder

end Conform.Pattern
