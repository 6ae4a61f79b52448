import Conform.Schema.Draft
import Conform.Schema.Fault

/-! # Schema resources

A resource is a schema that is known under an address. A registry holds resources by address and the
anchors inside them. A resource that was added is searched for resources and anchors inside it only
when an address or an anchor is not found otherwise.
-/

namespace Conform

/-- A schema with the draft that says how it is read. -/
structure Resource where
  /-- The draft. -/
  draft : Draft
  /-- The schema. -/
  contents : Json

/-- The places in a schema where a draft expects further schemas. -/
structure Places where
  /-- Keywords whose value is a schema. -/
  single : List Text
  /-- Keywords whose value is a list of schemas. -/
  lists : List Text
  /-- Keywords whose value is an object with schemas as members. -/
  maps : List Text
  /-- `items` may be a schema or a list of schemas. -/
  mixedItems : Bool
  /-- `dependencies` may hold schemas. -/
  mixedDependencies : Bool
  /-- Keywords whose value may be a schema, and is one if it is an object. -/
  maybe : List Text

namespace Places

/-- Places with keywords by name. -/
def of (single lists maps : List String) (mixedItems mixedDependencies : Bool)
    (maybe : List String) : Places :=
  ⟨single.map Text.ofString, lists.map Text.ofString, maps.map Text.ofString, mixedItems,
    mixedDependencies, maybe.map Text.ofString⟩

/-- The places of the third draft. -/
def draft3 : Places :=
  of [] ["extends"] ["definitions", "patternProperties", "properties"] true true
    ["additionalItems", "additionalProperties"]

/-- The places of the fourth draft. -/
def draft4 : Places :=
  of ["not"] ["allOf", "anyOf", "oneOf"] ["definitions", "patternProperties", "properties"] true
    true ["additionalItems", "additionalProperties"]

/-- The places of the sixth draft. -/
def draft6 : Places :=
  of ["additionalItems", "additionalProperties", "contains", "not", "propertyNames"]
    ["allOf", "anyOf", "oneOf"] ["definitions", "patternProperties", "properties"] true true []

/-- The places of the seventh draft. -/
def draft7 : Places :=
  of ["additionalItems", "additionalProperties", "contains", "else", "if", "not", "propertyNames",
      "then"]
    ["allOf", "anyOf", "oneOf"] ["definitions", "patternProperties", "properties"] true true []

/-- The places of the draft of 2019. -/
def draft201909 : Places :=
  of ["additionalItems", "additionalProperties", "contains", "contentSchema", "else", "if", "not",
      "propertyNames", "then", "unevaluatedItems", "unevaluatedProperties"]
    ["allOf", "anyOf", "oneOf"]
    ["$defs", "definitions", "dependentSchemas", "patternProperties", "properties"] true false []

/-- The places of the draft of 2020. -/
def draft202012 : Places :=
  of ["additionalProperties", "contains", "contentSchema", "else", "if", "items", "not",
      "propertyNames", "then", "unevaluatedItems", "unevaluatedProperties"]
    ["allOf", "anyOf", "oneOf", "prefixItems"]
    ["$defs", "definitions", "dependentSchemas", "patternProperties", "properties"] false false []

end Places

/-- The places where a draft expects schemas. -/
def Draft.places : Draft → Places
  | draft3 => Places.draft3
  | draft4 => Places.draft4
  | draft6 => Places.draft6
  | draft7 => Places.draft7
  | draft201909 => Places.draft201909
  | draft202012 => Places.draft202012

/-- Keywords that decide where a schema belongs. -/
def schemaKeyword : Text := Text.ofString "$schema"

/-- The keyword of references. -/
def referenceKeyword : Text := Text.ofString "$ref"

/-- The keyword of items. -/
def itemsKeyword : Text := Text.ofString "items"

/-- The keyword of dependencies. -/
def dependenciesKeyword : Text := Text.ofString "dependencies"

/-- A name inside a resource. A dynamic one stands for the outermost resource that has it. -/
structure Anchor where
  /-- The name is looked for further out. -/
  dynamic : Bool
  /-- The schema that bears the name. -/
  resource : Resource

namespace Resource

/-- A schema that stands in a resource of a draft. A draft of its own comes first. -/
def inside (inherited : Draft) (contents : Json) : Except Fault Resource :=
  match contents.member? schemaKeyword with
  | none => .ok ⟨inherited, contents⟩
  | some .null => .ok ⟨inherited, contents⟩
  | some (.str name) => .ok ⟨(Draft.named? (Uri.trimHashes name)).getD inherited, contents⟩
  | some _ => .error .notAnObject

/-- Whether a value holds the keyword of references, as a key, as an item or as a part of a text. -/
def refers : Json → Except Fault Bool
  | .obj members => .ok (members.lookup referenceKeyword).isSome
  | .arr items => .ok (items.any (Json.same (.str referenceKeyword)))
  | .str s => .ok (Text.holds referenceKeyword s)
  | _ => .error .wrongKind

/-- The name that a keyword gives to its schema. Where names with a fragment only are anchors, they
do not count. -/
def nameIn (keyword : Text) (anchorsApart : Bool) : Json → Except Fault (Option Text)
  | .obj members =>
    match members.lookup keyword with
    | none => .ok none
    | some .null => .ok none
    | some (.str name) =>
      if anchorsApart && name.head? == some Uri.hash then .ok none
      else .ok (some (Uri.trimHashes name))
    | some _ => .error .notAnObject
  | _ => .error .notAnObject

/-- The name of a schema, if it gives itself one. Where a reference makes its neighbours
meaningless, it also takes the name from a schema. -/
def id? (r : Resource) : Except Fault (Option Text) := do
  match r.contents with
  | .bool _ => if r.draft.admitsIntegralReals then return none else throw .wrongKind
  | contents =>
    if r.draft.refersAlone then
      if ← refers contents then return none
      nameIn r.draft.idKeyword true contents
    else nameIn r.draft.idKeyword false contents

/-- The name that a member of the schema spells. A list or an object is no name. -/
def spelled? (members : List (Text × Json)) (keyword : String) : Except Fault (Option Text) :=
  match members.lookup (Text.ofString keyword) with
  | some (.str name) => .ok (some name)
  | some (.arr _) => .error .wrongKind
  | some (.obj _) => .error .wrongKind
  | _ => .ok none

/-- The names that a schema bears. In early drafts these are addresses with a fragment only. -/
def anchors (r : Resource) : Except Fault (List (Text × Anchor)) := do
  match r.contents with
  | .obj members =>
    if r.draft.refersAlone then
      match members.lookup r.draft.idKeyword with
      | none => return []
      | some (.str name) =>
        match name with
        | c :: rest => return (if c = Uri.hash then [(rest, ⟨false, r⟩)] else [])
        | [] => return []
      | some _ => throw .notAnObject
    else
      let named := (← spelled? members "$anchor").toList.map (·, ⟨false, r⟩)
      if r.draft = .draft202012 then
        let dynamic := (← spelled? members "$dynamicAnchor").toList.map (·, ⟨true, r⟩)
        return named ++ dynamic
      return named
  | .bool _ => return []
  | _ => throw .notAnObject

/-- The schemas in a list. -/
def listed (value : Json) : Except Fault (List Json) :=
  match value.contents? with
  | some held => .ok held
  | none => .error .wrongKind

/-- The schemas in an object. -/
def mapped : Json → Except Fault (List Json)
  | .obj members => .ok (members.map (·.2))
  | _ => .error .notAnObject

/-- The schemas under `items`. -/
def itemSchemas : Json → List Json
  | .null => []
  | .arr items => items
  | .str s => s.map fun c => .str [c]
  | schema => [schema]

/-- The schemas under `dependencies`, if the first one is a schema. -/
def dependencySchemas : Json → Except Fault (List Json)
  | .null => .ok []
  | .obj [] => .ok []
  | .obj ((_, .obj first) :: rest) => .ok (.obj first :: rest.map (·.2))
  | .obj _ => .ok []
  | _ => .error .notAnObject

/-- The schemas inside a schema, in the places where its draft expects them. -/
def inner (r : Resource) : Except Fault (List Json) := do
  match r.contents with
  | .obj members =>
    let places := r.draft.places
    let at? (keyword : Text) : Option Json := members.lookup keyword
    let single := places.single.filterMap at?
    let lists ← (places.lists.filterMap at?).mapM listed
    let maps ← (places.maps.filterMap at?).mapM mapped
    let items :=
      if places.mixedItems then itemSchemas ((at? itemsKeyword).getD .null) else []
    let dependencies ←
      if places.mixedDependencies then
        dependencySchemas ((at? dependenciesKeyword).getD .null)
      else pure []
    let maybe := (places.maybe.filterMap at?).filter fun
      | .obj _ => true
      | _ => false
    return single ++ lists.flatten ++ maps.flatten ++ items ++ dependencies ++ maybe
  | _ => return []

end Resource

/-- Resources by address, and anchors by address and name. The latest entry counts. -/
structure Registry where
  /-- The resources. -/
  resources : List (Text × Resource)
  /-- The anchors. -/
  anchors : List ((Text × Text) × Anchor)
  /-- The addresses of resources that have not been searched. -/
  waiting : List Text

namespace Registry

/-- Adds a resource that is still to be searched. -/
def add (registry : Registry) (address : Text) (resource : Resource) : Registry :=
  let address := Uri.trimHashes address
  { registry with
    resources := (address, resource) :: registry.resources
    waiting := address :: registry.waiting }

/-- Lifts a fault of an address. -/
def joined (base reference : Text) : Except Fault Text :=
  match Uri.join base reference with
  | .ok address => .ok address
  | .error fault => .error (.badReference fault)

/-- Searches a resource, and what lies inside it, for resources and anchors. The last of several
schemas is searched first. -/
def search (fuel : Nat) (address : Text) (resource : Resource) (registry : Registry) :
    Except Fault Registry :=
  match fuel with
  | 0 => .ok registry
  | fuel + 1 => do
    let (address, registry) ←
      match ← resource.id? with
      | none => pure (address, registry)
      | some name =>
        let address ← joined address name
        pure (address, { registry with resources := (address, resource) :: registry.resources })
    let found := (← resource.anchors).map fun (name, anchor) => ((address, name), anchor)
    let registry := { registry with anchors := found.reverse ++ registry.anchors }
    let inner ← (← resource.inner).mapM (Resource.inside resource.draft)
    inner.reverse.foldlM (fun registry resource => search fuel address resource registry) registry

/-- Searches every resource that has not been searched. -/
def searchAll (registry : Registry) : Except Fault Registry :=
  registry.waiting.foldlM (fun registry address =>
    match registry.resources.lookup address with
    | some resource => search resource.contents.depth address resource registry
    | none => .ok registry) { registry with waiting := [] }

/-- The resource at an address. -/
def find? (registry : Registry) (address : Text) : Except Fault (Option (Resource × Registry)) := do
  match registry.resources.lookup address with
  | some resource => return some (resource, registry)
  | none =>
    let registry ← registry.searchAll
    return (registry.resources.lookup address).map (·, registry)

/-- An anchor of the resource at an address, which may also be known under its own name. -/
def anchor (registry : Registry) (address name : Text) : Except Fault (Anchor × Registry) := do
  match registry.anchors.lookup (address, name) with
  | some anchor => return (anchor, registry)
  | none =>
    let searched ← registry.searchAll
    match searched.anchors.lookup (address, name) with
    | some anchor => return (anchor, searched)
    | none =>
      match registry.resources.lookup (Uri.trimHashes address) with
      | none => throw .noResource
      | some resource =>
        let own := (← resource.id?).bind fun id => searched.anchors.lookup (id, name)
        match own with
        | some anchor => return (anchor, searched)
        | none =>
          if name.contains Uri.slash then throw (.lost (.badAnchor name))
          throw (.lost (.noAnchor name resource.contents))

/-- Adds a resource under the name it gives itself. -/
def addNamed (registry : Registry) (resource : Resource) : Registry :=
  match resource.id? with
  | .ok (some id) => registry.add id resource
  | _ => registry

/-- The registry of the drafts' own documents. -/
def drafts : Registry :=
  let documents : List Resource := Draft.documents.map fun (draft, document) => ⟨draft, document⟩
  let registry := documents.foldl addNamed ⟨[], [], []⟩
  match registry.searchAll with
  | .ok registry => registry
  | .error _ => registry

end Registry

end Conform
