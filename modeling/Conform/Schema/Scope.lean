import Conform.Json.Pointer
import Conform.Schema.Registry
import Conform.Text.Integer

/-! # Where a schema is looked at

A schema is looked at in a scope: the draft that says what its keywords mean, the address that its
references start from, the addresses that led there, and the resources that are known.
-/

namespace Conform

/-- The scope of a schema. -/
structure Scope where
  /-- The draft of the keywords. -/
  draft : Draft
  /-- The address from which references start. -/
  base : Text
  /-- The addresses that led here, the latest first. -/
  trail : List Text
  /-- The known resources. -/
  registry : Registry
  /-- Whether formats are checked. -/
  checksFormats : Bool

namespace Scope

/-- The scope of a schema that stands on its own. -/
def root (draft : Draft) (checksFormats : Bool) (schema : Json) : Except Fault Scope := do
  let resource : Resource := ⟨draft, schema⟩
  let base := (← resource.id?).getD []
  return ⟨draft, base, [], Registry.drafts.add base resource, checksFormats⟩

/-- The draft that a schema's `$schema` selects. -/
def draftNamed (inherited : Draft) : Json → Except Fault Draft
  | .str name =>
    match Uri.normalize name with
    | .ok name => .ok ((Draft.named? name).getD inherited)
    | .error fault => .error (.badReference fault)
  | .null => .ok inherited
  | .bool false => .ok inherited
  | .num n => if n.eq (.int 0) then .ok inherited else .error .notAnObject
  | .bool true => .error .notAnObject
  | _ => .error .wrongKind

/-- Whether a list or a text holds the keyword `$schema`, which then selects nothing. -/
def mentions (schema : Json) : Bool :=
  match schema with
  | .arr items => items.any fun item => item.same (.str schemaKeyword)
  | .str s => Text.holds schemaKeyword s
  | _ => false

/-- The draft of a schema that stands in a schema of another draft. -/
def draftOf (inherited : Draft) (schema : Json) : Except Fault Draft :=
  match schema with
  | .bool _ => .ok inherited
  | .obj members =>
    match members.lookup schemaKeyword with
    | none => .ok inherited
    | some name => draftNamed inherited name
  | .arr _ => if mentions schema then .error .wrongKind else .ok inherited
  | .str _ => if mentions schema then .error .wrongKind else .ok inherited
  | _ => .error .wrongKind

/-- The scope inside a schema that may have an address of its own. -/
def entering (scope : Scope) (resource : Resource) : Except Fault Scope := do
  match ← resource.id? with
  | none => return scope
  | some id => return { scope with base := ← Registry.joined scope.base id }

/-- The scope after following a reference to an address. -/
def moved (scope : Scope) (registry : Registry) (address : Text) : Scope :=
  let trail :=
    if !scope.base.isEmpty && (scope.trail.isEmpty || address != scope.base) then
      scope.base :: scope.trail
    else scope.trail
  { scope with base := address, trail, registry }

/-- Whether steps that lead into a schema end at a schema of its own. -/
def leadsToSchema (places : Places) (target : Json) : List Step → Bool
  | [] => true
  | .index _ :: _ => false
  | .key keyword :: rest =>
    let isObject :=
      match target with
      | .obj _ => true
      | _ => false
    if isObject && ((places.mixedItems && keyword == itemsKeyword) ||
        (places.mixedDependencies && keyword == dependenciesKeyword)) then true
    else if places.single.contains keyword || places.maybe.contains keyword then
      leadsToSchema places target rest
    else if places.lists.contains keyword || places.maps.contains keyword then
      match rest with
      | [] => false
      | _ :: rest => leadsToSchema places target rest
    else false

/-- One step of a pointer: an index of an array or a text, or a key of an object. -/
def child (value : Json) (segment : Text) : Except Fault (Option (Step × Json)) :=
  let index (size : Nat) : Except Fault (Option (Int × Nat)) :=
    match Text.integer? (segment.map CodePoint.value) with
    | none => .error (.badIndex segment)
    | some n =>
      let place := if n < 0 then n + size else n
      .ok (if place < 0 || size ≤ place.toNat then none else some (n, place.toNat))
  match value with
  | .arr items => do
    let found ← index items.length
    return found.bind fun (n, place) => items[place]?.map (.index n, ·)
  | .str s => do
    let found ← index s.length
    return found.bind fun (n, place) => s[place]?.map fun c => (.index n, .str [c])
  | .obj members =>
    let key := Pointer.unescapeAll segment
    .ok ((members.lookup key).map (.key key, ·))
  | _ => .error .wrongKind

/-- Follows the segments of a pointer. `steps` are those taken since the latest address. -/
def walk (fail : Fault) (draft : Draft) (scope : Scope) (steps : List Step) (value : Json) :
    List Text → Except Fault (Json × Scope)
  | [] => .ok (value, scope)
  | segment :: rest => do
    match ← child value segment with
    | none => throw fail
    | some (step, next) =>
      let steps := steps ++ [step]
      let resource : Resource := ⟨draft, next⟩
      if leadsToSchema draft.places next steps then
        match ← resource.id? with
        | none => walk fail draft scope steps next rest
        | some _ => walk fail draft (← scope.entering resource) [] next rest
      else walk fail draft scope steps next rest

/-- The schema of an anchor. A dynamic one is the outermost of that name on the trail. -/
def ofAnchor (scope : Scope) (name : Text) (anchor : Anchor) : Except Fault (Json × Scope) := do
  if !anchor.dynamic then return (anchor.resource.contents, scope)
  let outermost ← scope.trail.foldlM (fun latest address =>
    match scope.registry.anchor address name with
    | .ok (other, _) => .ok (if other.dynamic then other.resource else latest)
    | .error (.lost (.noAnchor ..)) => .ok latest
    | .error fault => .error fault) anchor.resource
  return (outermost.contents, ← scope.entering outermost)

/-- The schema that a reference leads to, and the scope in which it is looked at. -/
def lookup (scope : Scope) (reference : Text) : Except Fault (Json × Scope) := do
  let (address, fragment) ←
    match reference with
    | c :: rest =>
      if c = Uri.hash then pure (scope.base, rest)
      else
        match Uri.cutFragment (← Registry.joined scope.base reference) with
        | .ok cut => pure cut
        | .error fault => throw (.badReference fault)
    | [] => pure (scope.base, [])
  match ← scope.registry.find? address with
  | none => throw (.lost (.noDocument reference))
  | some (resource, registry) =>
    match fragment with
    | [] => return (resource.contents, scope.moved registry address)
    | c :: rest =>
      if c = Uri.slash then
        walk (.lost (.noPlace fragment resource.contents)) resource.draft
          (scope.moved registry address) [] resource.contents
          (Text.splitOn Uri.slash (Uri.unescape rest))
      else
        let (anchor, registry) ← registry.anchor address fragment
        ofAnchor (scope.moved registry address) fragment anchor

/-- Whether a schema lets references to its language be taken further out. -/
def isRecursive (schema : Json) : Bool :=
  match schema.member? (Text.ofString "$recursiveAnchor") with
  | some flag => flag.affirms
  | none => false

/-- Takes a reference further out as long as the resources on the trail allow it. -/
def lookupOutwards (scope : Scope) (latest : Json × Scope) : List Text → Except Fault (Json × Scope)
  | [] => .ok latest
  | address :: rest => do
    let next ← scope.lookup address
    if isRecursive next.1 then lookupOutwards scope next rest else return latest

/-- The outermost schema that references to the schema's own language lead to. -/
def lookupRecursive (scope : Scope) : Except Fault (Json × Scope) := do
  let here ← scope.lookup [Uri.hash]
  if isRecursive here.1 then lookupOutwards scope here scope.trail else return here

end Scope

end Conform
