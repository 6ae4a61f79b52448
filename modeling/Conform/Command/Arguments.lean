import Conform.FilePath

/-! # Arguments

A command line names a command and gives it options and paths. Options start with a dash; the value
of an option is its next argument or stands behind an equals sign. Two dashes end the options.
-/

namespace Conform

/-- What is asked for on a command line. -/
inductive Command
  /-- Check files once. -/
  | check (paths : List FilePath) (providers syntaxChecked : List String)
  /-- Tell which schema a file has. -/
  | schema (file : FilePath)
  /-- Check a directory, and its files again when they change. -/
  | watch (directory : FilePath) (providers syntaxChecked : List String)
  /-- Serve the tools. -/
  | serve (providers : List String)
  deriving DecidableEq, Repr

namespace Arguments

/-- Why arguments ask for nothing. -/
inductive Misuse
  /-- They do not follow the rules. -/
  | malformed
  /-- A path holds a null character. -/
  | nullCharacter
  deriving DecidableEq, Repr

/-- Arguments that were told apart. -/
structure Parsed where
  /-- The options with their values, in order. -/
  options : List (String × String)
  /-- The other arguments, in order. -/
  others : List String
  deriving DecidableEq, Repr

namespace Parsed

/-- The values of an option. -/
def valuesOf (parsed : Parsed) (name : String) : List String :=
  parsed.options.filterMap fun (option, value) => if option = name then some value else none

/-- Puts an option in front. -/
def withOption (name value : String) (parsed : Parsed) : Parsed :=
  { parsed with options := (name, value) :: parsed.options }

/-- Puts another argument in front. -/
def withOther (argument : String) (parsed : Parsed) : Parsed :=
  { parsed with others := argument :: parsed.others }

end Parsed

/-- Whether an argument is an option: it starts with a dash and is longer than that. -/
def isOption (argument : String) : Bool :=
  match argument.toList with
  | '-' :: _ :: _ => true
  | _ => false

/-- The name and the value of an option that has its value behind an equals sign. -/
def attached? (argument : String) : Option (String × String) :=
  (Text.cut? '=' argument.toList).map fun (name, value) => (String.ofList name, String.ofList value)

/-- Tells arguments apart, where options of the given names take a value. -/
def parse (names : List String) : List String → Except Misuse Parsed
  | [] => .ok ⟨[], []⟩
  | argument :: rest =>
    if argument = "--" then .ok ⟨[], rest⟩
    else if isOption argument then
      match attached? argument with
      | some (name, value) =>
        if names.contains name then (parse names rest).map (.withOption name value)
        else .error .malformed
      | none =>
        if names.contains argument then
          match rest with
          | [] => .error .malformed
          | value :: rest => (parse names rest).map (.withOption argument value)
        else .error .malformed
    else (parse names rest).map (.withOther argument)

/-- A path that is an argument. -/
def path (argument : String) : Except Misuse FilePath :=
  if argument.toList.contains '\x00' then .error .nullCharacter
  else .ok (FilePath.ofString argument)

/-- The options of the commands that check files. -/
def checkOptions : List String := ["--provider", "--syntax-checked"]

/-- The options of the command that serves the tools. -/
def serveOptions : List String := ["--transport", "--provider"]

/-- Reads the arguments of the command that checks files. -/
def readCheck (arguments : List String) : Except Misuse Command := do
  let parsed ← parse checkOptions arguments
  if parsed.others.isEmpty then throw .malformed
  let paths ← parsed.others.mapM path
  return .check paths (parsed.valuesOf "--provider") (parsed.valuesOf "--syntax-checked")

/-- Reads the arguments of the command that tells which schema a file has. -/
def readSchema (arguments : List String) : Except Misuse Command := do
  match (← parse [] arguments).others with
  | [file] => return .schema (← path file)
  | _ => throw .malformed

/-- Reads the arguments of the command that watches a directory. -/
def readWatch (arguments : List String) : Except Misuse Command := do
  let parsed ← parse checkOptions arguments
  let watched (directory : FilePath) : Command :=
    .watch directory (parsed.valuesOf "--provider") (parsed.valuesOf "--syntax-checked")
  match parsed.others with
  | [] => return watched (FilePath.ofString ".")
  | [directory] => return watched (← path directory)
  | _ => throw .malformed

/-- Reads the arguments of the server of tools. -/
def readTools (arguments : List String) : Except Misuse Command := do
  let parsed ← parse serveOptions arguments
  if !parsed.others.isEmpty then throw .malformed
  return .serve (parsed.valuesOf "--provider")

/-- Reads the arguments behind the word that starts servers. -/
def readServe : List String → Except Misuse Command
  | "mcp" :: arguments => readTools arguments
  | "--" :: "mcp" :: arguments => readTools arguments
  | _ => .error .malformed

/-- The commands, with what reads their arguments. -/
def readers : List (String × (List String → Except Misuse Command)) :=
  [("check", readCheck), ("schema", readSchema), ("watch", readWatch), ("serve", readServe)]

/-- A command that was named, with what reads its arguments still to be used. -/
structure Call where
  /-- The settings do not matter for how much is logged. -/
  verbose : Bool
  /-- Reads the arguments of the command. -/
  read : Unit → Except Misuse Command

/-- Whether an argument asks for all there is to log, perhaps several times over. -/
def asksVerbose (argument : String) : Bool :=
  match argument.toList with
  | '-' :: 'v' :: rest => rest.all (· == 'v')
  | _ => argument = "--verbose"

/-- Finds the command behind the options that all commands share. -/
def call (verbose : Bool) : List String → Except Misuse Call
  | [] => .error .malformed
  | argument :: rest =>
    if asksVerbose argument then call true rest
    else
      match (if argument = "--" then rest else argument :: rest) with
      | [] => .error .malformed
      | name :: arguments =>
        match readers.lookup name with
        | some read => .ok ⟨verbose, fun _ => read arguments⟩
        | none => .error .malformed

end Arguments

end Conform
