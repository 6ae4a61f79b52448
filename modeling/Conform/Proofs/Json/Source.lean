import Conform.Proofs.Json.Spelling

/-! # JSON texts in their parts

A source is a JSON value together with the way it is written: every character
of it, white space included, and every occurrence of a repeated key. It says
where in a text each value inside it starts, without reading the text.
-/

namespace Conform

/-- White space between tokens. -/
def Json.Blank (cs : List Char) : Prop := ∀ c ∈ cs, Json.isSpace c = true

instance (cs : List Char) : Decidable (Json.Blank cs) :=
  List.decidableBAll (fun c => Json.isSpace c = true) cs

namespace Source

/-- What stands before the value of a member: a key and a colon. -/
structure Label where
  /-- The white space before the key. -/
  lead : List Char
  /-- The characters of the key between its quotes. -/
  raw : List Char
  /-- The key that they spell. -/
  key : Text
  /-- The white space before the colon. -/
  beforeColon : List Char
  /-- The white space behind the colon. -/
  afterColon : List Char

namespace Label

/-- The characters from the opening quote of the key on. -/
def body (label : Label) : List Char :=
  '"' :: label.raw ++ '"' :: label.beforeColon ++ ':' :: label.afterColon

/-- The characters of a label. -/
def chars (label : Label) : List Char := label.lead ++ label.body

/-- The parts of a label are what they are said to be. -/
structure WellFormed (label : Label) : Prop where
  lead : Json.Blank label.lead
  raw : Json.Spells true [] label.raw label.key
  beforeColon : Json.Blank label.beforeColon
  afterColon : Json.Blank label.afterColon

end Label

end Source

/-- A JSON value as it is written. -/
inductive Source
  /-- A word or number, with the value it spells. -/
  | scalar (chars : List Char) (content : Json)
  /-- A string, with the characters between its quotes and the text they spell. -/
  | string (raw : List Char) (text : Text)
  /-- An array. Each item has white space before and behind it. -/
  | array (blank : List Char) (items : List (List Char × Source × List Char))
  /-- An object. Each member has white space behind it. -/
  | object (blank : List Char) (members : List (Source.Label × Source × List Char))

namespace Source

mutual

/-- The characters of a value. -/
def chars : Source → List Char
  | scalar cs _ => cs
  | string raw _ => '"' :: raw ++ ['"']
  | array blank items => '[' :: blank ++ itemChars [] items ++ [']']
  | object blank members => '\x7b' :: blank ++ memberChars [] members ++ ['\x7d']

/-- The characters of items, with a comma before each item that is not the first. -/
def itemChars (comma : List Char) : List (List Char × Source × List Char) → List Char
  | [] => []
  | (lead, item, trail) :: rest => comma ++ lead ++ chars item ++ trail ++ itemChars [','] rest

/-- The characters of members, with a comma before each member that is not the first. -/
def memberChars (comma : List Char) : List (Label × Source × List Char) → List Char
  | [] => []
  | (label, item, trail) :: rest =>
    comma ++ label.chars ++ chars item ++ trail ++ memberChars [','] rest

end

mutual

/-- The value that is written. Of a repeated key the last occurrence counts. -/
def value : Source → Json
  | scalar _ content => content
  | string _ text => .str text
  | array _ items => .arr (itemValues items)
  | object _ members => .ofMembers (memberValues members)

/-- The values of items. -/
def itemValues : List (List Char × Source × List Char) → List Json
  | [] => []
  | (_, item, _) :: rest => value item :: itemValues rest

/-- The members with their values, repetitions included. -/
def memberValues : List (Label × Source × List Char) → List (Text × Json)
  | [] => []
  | (label, item, _) :: rest => (label.key, value item) :: memberValues rest

end

mutual

/-- The parts of a value are what they are said to be. -/
def WellFormed : Source → Prop
  | scalar cs content =>
    ∃ line after, Document.readScalar line (cs ++ after) = .ok (.leaf line content, (line, after))
  | string raw text => Json.Spells true [] raw text
  | array blank items => Json.Blank blank ∧ ItemsWellFormed items
  | object blank members => Json.Blank blank ∧ MembersWellFormed members

/-- The parts of items are what they are said to be. -/
def ItemsWellFormed : List (List Char × Source × List Char) → Prop
  | [] => True
  | (lead, item, trail) :: rest =>
    Json.Blank lead ∧ WellFormed item ∧ Json.Blank trail ∧ ItemsWellFormed rest

/-- The parts of members are what they are said to be. -/
def MembersWellFormed : List (Label × Source × List Char) → Prop
  | [] => True
  | (label, item, trail) :: rest =>
    label.WellFormed ∧ WellFormed item ∧ Json.Blank trail ∧ MembersWellFormed rest

end

mutual

/-- The value at the end of a path, and the characters before its first one. -/
def at? : Source → List Step → Option (List Char × Source)
  | source, [] => some ([], source)
  | array blank items, .index n :: path =>
    (itemAt? [] n path items).map fun (before, found) => ('[' :: blank ++ before, found)
  | object blank members, .key key :: path =>
    (memberAt? [] key path members).map fun (before, found) => ('\x7b' :: blank ++ before, found)
  | _, _ :: _ => none

/-- The value at the end of a path that starts at an item. -/
def itemAt? (comma : List Char) (n : Int) (path : List Step) :
    List (List Char × Source × List Char) → Option (List Char × Source)
  | [] => none
  | (lead, item, trail) :: rest =>
    if n = 0 then
      (at? item path).map fun (before, found) => (comma ++ lead ++ before, found)
    else
      (itemAt? [','] (n - 1) path rest).map fun (before, found) =>
        (comma ++ lead ++ chars item ++ trail ++ before, found)

/-- The value at the end of a path that starts at the last member with a key. -/
def memberAt? (comma : List Char) (key : Text) (path : List Step) :
    List (Label × Source × List Char) → Option (List Char × Source)
  | [] => none
  | (label, item, trail) :: rest =>
    if key ∈ rest.map (·.1.key) then
      (memberAt? [','] key path rest).map fun (before, found) =>
        (comma ++ label.chars ++ chars item ++ trail ++ before, found)
    else if label.key = key then
      (at? item path).map fun (before, found) => (comma ++ label.chars ++ before, found)
    else none

end

@[simp] theorem at?_scalar_cons (cs : List Char) (content : Json) (step : Step)
    (path : List Step) : (scalar cs content).at? (step :: path) = none :=
  at?.eq_4 _ _ _ (by simp) (by simp)

@[simp] theorem at?_string_cons (raw : List Char) (text : Text) (step : Step) (path : List Step) :
    (string raw text).at? (step :: path) = none :=
  at?.eq_4 _ _ _ (by simp) (by simp)

@[simp] theorem at?_array_key (blank : List Char) (items : List (List Char × Source × List Char))
    (name : Text) (path : List Step) : (array blank items).at? (.key name :: path) = none :=
  at?.eq_4 _ _ _ (by simp) (by simp)

@[simp] theorem at?_object_index (blank : List Char)
    (members : List (Label × Source × List Char)) (n : Int) (path : List Step) :
    (object blank members).at? (.index n :: path) = none :=
  at?.eq_4 _ _ _ (by simp) (by simp)

mutual

/-- The parts of a value are what the grammar asks for. A number may have any
number of digits. -/
def Spelled : Source → Prop
  | scalar cs _ => Json.IsScalar cs
  | string raw text => Json.Spells true [] raw text
  | array blank items => Json.Blank blank ∧ ItemsSpelled items
  | object blank members => Json.Blank blank ∧ MembersSpelled members

/-- The parts of items are what the grammar asks for. -/
def ItemsSpelled : List (List Char × Source × List Char) → Prop
  | [] => True
  | (lead, item, trail) :: rest =>
    Json.Blank lead ∧ Spelled item ∧ Json.Blank trail ∧ ItemsSpelled rest

/-- The parts of members are what the grammar asks for. -/
def MembersSpelled : List (Label × Source × List Char) → Prop
  | [] => True
  | (label, item, trail) :: rest =>
    label.WellFormed ∧ Spelled item ∧ Json.Blank trail ∧ MembersSpelled rest

end

mutual

theorem WellFormed.spelled (source : Source) (hwf : source.WellFormed) : source.Spelled := by
  match source, hwf with
  | .scalar _ _, ⟨_, _, hread⟩ => exact Json.isScalar_of_readScalar hread
  | .string _ _, hspells => exact hspells
  | .array _ items, ⟨hblank, hitems⟩ => exact ⟨hblank, ItemsWellFormed.spelled items hitems⟩
  | .object _ members, ⟨hblank, hmembers⟩ =>
      exact ⟨hblank, MembersWellFormed.spelled members hmembers⟩
  termination_by sizeOf source

theorem ItemsWellFormed.spelled (items : List (List Char × Source × List Char))
    (hwf : ItemsWellFormed items) : ItemsSpelled items := by
  match items, hwf with
  | [], _ => trivial
  | (_, item, _) :: rest, ⟨hlead, hitem, htrail, hrest⟩ =>
      exact ⟨hlead, WellFormed.spelled item hitem, htrail, ItemsWellFormed.spelled rest hrest⟩
  termination_by sizeOf items

theorem MembersWellFormed.spelled (members : List (Label × Source × List Char))
    (hwf : MembersWellFormed members) : MembersSpelled members := by
  match members, hwf with
  | [], _ => trivial
  | (_, item, _) :: rest, ⟨hlabel, hitem, htrail, hrest⟩ =>
      exact ⟨hlabel, WellFormed.spelled item hitem, htrail, MembersWellFormed.spelled rest hrest⟩
  termination_by sizeOf members

end

/-- A text is a value with white space around it. -/
structure Writes (source : Source) (lead : List Char) (text : List Char) : Prop where
  wellFormed : source.WellFormed
  lead_blank : Json.Blank lead
  text_eq : ∃ trail, Json.Blank trail ∧ text = lead ++ source.chars ++ trail

end Source

end Conform
