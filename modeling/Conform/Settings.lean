import Conform.Provider

/-! # Settings

Settings are read from three variables of the environment: how much is logged, which files have a
schema by their suffix, and which files have their form checked elsewhere. Lists are written with
commas; entries are written with an equals sign.
-/

namespace Conform

/-- An entry of a list of providers that is none. -/
structure SpecFault where
  /-- The entry as it was written. -/
  spec : String
  deriving DecidableEq, Repr

/-- The wording of the fault. -/
def SpecFault.message (fault : SpecFault) : String :=
  "Invalid schema provider '" ++ fault.spec ++ "'. Expected '.ext=path/to/schema.json'."

namespace Settings

/-- The suffix and the path of an entry, which stand around its first equals sign. -/
def parseSpec (spec : String) : Except SpecFault (String × String) :=
  match Text.cut? '=' spec.toList with
  | none => .error ⟨spec⟩
  | some (suffix, path) =>
    let suffix := Text.strip (String.ofList suffix)
    let path := Text.strip (String.ofList path)
    if suffix.isEmpty || path.isEmpty then .error ⟨spec⟩ else .ok (suffix, path)

/-- Reads entries into those that are known. A suffix that is known keeps its place. -/
def parseSpecsInto (known : List (String × String)) :
    List String → Except SpecFault (List (String × String))
  | [] => .ok known
  | spec :: rest =>
    match parseSpec spec with
    | .error fault => .error fault
    | .ok (suffix, path) => parseSpecsInto (Entries.put suffix path known) rest

/-- The paths by suffix that a list of entries gives. -/
def parseSpecs (specs : List String) : Except SpecFault (List (String × String)) :=
  parseSpecsInto [] specs

/-- The items of a list with commas; blank ones are left out. -/
def splitList (value : String) : List String :=
  ((Text.splitOn ',' value.toList).map fun item => Text.strip (String.ofList item)).filter
    fun item => !item.isEmpty

end Settings

/-- What the environment says. -/
structure Settings where
  /-- How much is logged. -/
  logLevel : String
  /-- The paths of schemas by suffix. -/
  providers : List (String × String)
  /-- The suffixes of files whose form is checked elsewhere. -/
  syntaxChecked : List String

namespace Settings

/-- The settings of an environment in which nothing is set. -/
def default : Settings := ⟨"WARNING", [], []⟩

/-- The settings of an environment. -/
def ofEnvironment (environment : List (String × String)) : Except SpecFault Settings :=
  let value (name absent : String) : String := (environment.lookup name).getD absent
  match parseSpecs (splitList (value "SCHEMAWATCH_SCHEMA_PROVIDERS" "")) with
  | .error fault => .error fault
  | .ok providers =>
    .ok
      { logLevel := Text.upper (value "SCHEMAWATCH_LOG_LEVEL" "WARNING")
        providers
        syntaxChecked := splitList (value "SCHEMAWATCH_SYNTAX_CHECKED" "") }

end Settings

end Conform
