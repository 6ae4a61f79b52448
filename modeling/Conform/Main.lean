import Conform.Command.Reply
import Conform.Files.Tree

/-! # The program

The program looks at the files that its arguments name, works out the reply and shows it. While a
directory is watched, the files are looked at again and again, and what has changed in between is
dealt with as a batch of events.
-/

namespace Conform.Program

/-! ## Looking at files -/

/-- The number of levels below a directory that are looked at. -/
def levels : Nat := 1024

/-- Names without the double dots, each of which takes back the name before it. -/
def straightened (names : List String) : List String :=
  names.foldl (fun seen name => if name = ".." then seen.dropLast else seen ++ [name]) []

/-- The written form of the absolute path with some names. -/
def pathOf (names : List String) : String := "/" ++ "/".intercalate names

/-- Adds to a tree what stands at the end of names. A directory is added without what stands in it,
and what cannot be looked at is left out. -/
def place (tree : Tree) (names : List String) : IO Tree := do
  try
    let path := pathOf names
    match (← (← IO.FS.realPath path).metadata).type with
    | .file => return tree.write names (← IO.FS.readBinFile path).data.toList
    | .dir => return tree.makeDirectory names
    | _ => return tree
  catch _ => return tree

/-- The names in a directory, and whether each of them is a link. -/
def namesIn (names : List String) : IO (List (String × Bool)) := do
  try
    let entries ← (← IO.FS.realPath (pathOf names)).readDir
    entries.toList.mapM fun entry => do
      return (entry.fileName, (← entry.path.symlinkMetadata).type == .symlink)
  catch _ => return []

/-- Adds to a tree what stands at the end of names and so many levels below it. Links are not gone
through. -/
def placeBelow : Nat → Tree → List String → IO Tree
  | 0, tree, names => place tree names
  | levels + 1, tree, names => do
    (← namesIn names).foldlM
      (fun tree (name, isLink) =>
        if isLink then place tree (names ++ [name])
        else placeBelow levels tree (names ++ [name]))
      (← place tree names)

/-- Adds to a tree the directories on the way to a path, and what stands there: a directory with
everything below it, or a file with everything beside it. -/
def look (current : FilePath) (tree : Tree) (path : FilePath) : IO Tree := do
  let names := (current.join path).names
  let ways := (List.range names.length).map fun count => straightened (names.take count)
  let tree ← ways.foldlM place tree
  let found ← place tree (straightened names)
  match Tree.walk [] found (straightened names) with
  | .ok (.directory _) => placeBelow levels found (straightened names)
  | _ => placeBelow 1 found (straightened names).dropLast

/-- The paths of the schemas that entries name. -/
def schemasOf (providers : List String) : List FilePath :=
  match Settings.parseSpecs providers with
  | .ok entries => entries.map fun entry => FilePath.ofString entry.2
  | .error _ => []

/-- The paths that a command names. -/
def pathsOf : Command → List FilePath
  | .check paths providers _ => paths ++ schemasOf providers
  | .schema file => [file]
  | .watch directory providers _ => directory :: schemasOf providers
  | .serve providers => schemasOf providers

/-- The paths that the environment names. -/
def pathsIn (environment : Environment) : List FilePath :=
  match Settings.ofEnvironment environment with
  | .ok settings => settings.providers.map fun entry => FilePath.ofString entry.2
  | .error _ => []

/-- The files that matter for a command. -/
def survey (current : FilePath) (environment : Environment) (command : Command) : IO Tree := do
  let tree ← place (.directory []) current.names
  (pathsOf command ++ pathsIn environment).foldlM (look current) tree

/-! ## Showing what is left behind -/

/-- Whether entries of a level are shown under a setting of how much is logged. -/
def isShown (logLevel : String) : Level → Bool
  | .info => ["DEBUG", "INFO"].contains logLevel
  | .warning => ["DEBUG", "INFO", "WARNING"].contains logLevel
  | .error => logLevel != "CRITICAL"

/-- A text as far as it can be written. -/
def written (t : Text) : String := String.ofList (t.map fun c => c.toChar?.getD '?')

/-- Shows a note. -/
def showNote (logLevel : String) : Note → IO Unit
  | .printed text => do
    IO.print text
    (← IO.getStdout).flush
  | .logged entry => do
    if isShown logLevel entry.level then
      IO.eprintln (entry.level.text ++ " " ++ written entry.message)
      if let some reason := entry.reason? then IO.eprintln (written reason.message)

/-- Shows a reply and gives the code with which the program ends. -/
def conclude (logLevel : String) (reply : Reply) : IO UInt32 := do
  reply.notes.forM (showNote logLevel)
  match reply.escaped with
  | some (.settings fault) => IO.eprintln fault.message
  | some (.brokenDown reason) => IO.eprintln (written reason.message)
  | none => pure ()
  return reply.exitCode.toUInt32

/-! ## Watching -/

/-- The files of a tree with what they hold. -/
def contents (tree : Tree) : List (FilePath × List UInt8) :=
  tree.files.filterMap fun names =>
    match Tree.walk [] tree names with
    | .ok (.file bytes) => some (FilePath.ofString (pathOf names), bytes)
    | _ => none

/-- What happened to the files of a tree that has become another one. -/
def eventsBetween (earlier later : Tree) : List Watch.Event :=
  let before := contents earlier
  let after := contents later
  (after.filterMap fun (file, bytes) =>
    match before.lookup file with
    | none => some ⟨.added, file⟩
    | some known => if known = bytes then none else some ⟨.modified, file⟩) ++
  (before.filterMap fun (file, _) =>
    if (after.lookup file).isNone then some ⟨.deleted, file⟩ else none)

/-- Goes on watching until the program is stopped. -/
def keepWatching (current : FilePath) (environment : Environment) (logLevel : String)
    (command : Command) (watching : Command.Watching) (tree : Tree) : IO Unit := do
  let mut watching := watching
  let mut tree := tree
  repeat
    watching.notes.forM (showNote logLevel)
    IO.sleep 500
    let later ← survey current environment command
    let events := (eventsBetween tree later).filter fun event =>
      (event.file.below? watching.root).isSome
    watching := { watching with notes := [] }.follow [(later.workspace current, events)]
    tree := later

/-! ## Running -/

/-- The variables of the environment that are set. -/
def environment : IO Environment :=
  ["SCHEMAWATCH_LOG_LEVEL", "SCHEMAWATCH_SCHEMA_PROVIDERS", "SCHEMAWATCH_SYNTAX_CHECKED"].filterMapM
    fun name => do return (← IO.getEnv name).map (name, ·)

/-- Carries out a command. -/
def carryOut (environment : Environment) (logLevel : String) (command : Command) : IO UInt32 := do
  let current := FilePath.ofString (← IO.currentDir).toString
  let tree ← survey current environment command
  let w := tree.workspace current
  match command with
  | .watch directory providers syntaxChecked =>
    match Command.beginWatch w environment directory providers syntaxChecked with
    | .error reply => conclude logLevel reply
    | .ok watching =>
      keepWatching current environment logLevel command watching tree
      return 0
  | _ => conclude logLevel (command.run w environment [])

/-- Runs the program with arguments. -/
def run (arguments : List String) : IO UInt32 := do
  let environment ← environment
  let logLevel := ((Settings.ofEnvironment environment).toOption.getD .default).logLevel
  match Command.ofArguments environment arguments with
  | .error reply => conclude logLevel reply
  | .ok command => carryOut environment logLevel command

end Conform.Program

/-- The program. -/
def main (arguments : List String) : IO UInt32 := Conform.Program.run arguments
