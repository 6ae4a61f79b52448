import Conform.Assembly
import Conform.Command.Arguments
import Conform.Console.Table
import Conform.Files.Collect
import Conform.Tools
import Conform.Watch

/-! # Replies

What a command line leads to: what is printed, what is logged and the code with which the program
ends. A mistake of the user is told in red and ends it with two, errors in the files that were
checked with one. What nobody is told of escapes.
-/

namespace Conform

/-- What escapes from a command. -/
inductive Escape
  /-- The settings are malformed. -/
  | settings (fault : SpecFault)
  /-- The command broke down. -/
  | brokenDown (reason : Breakdown)

/-- What a command line leads to. -/
structure Reply where
  /-- The code with which the program ends. -/
  exitCode : Nat
  /-- What escaped. -/
  escaped : Option Escape
  /-- What was left behind. -/
  notes : List Note

namespace Reply

/-- Ends with a code. -/
def ended (exitCode : Nat) (notes : List Note) : Reply := ⟨exitCode, none, notes⟩

/-- Ends with something that escaped. -/
def escaping (what : Escape) (notes : List Note) : Reply := ⟨1, some what, notes⟩

/-- The notes with a text with markup printed behind them. What cannot be printed escapes. -/
def printing (markup : String) (notes : List Note) : Except Reply (List Note) :=
  match Layout.printed markup with
  | .ok text => .ok (notes ++ [.printed text])
  | .error fault => .error (escaping (.brokenDown (.markup fault)) notes)

/-- The answer to a question about files. A question without answer escapes. -/
def asking {α : Type} (answer : Except AccessFault α) : Except Reply α :=
  answer.mapError fun fault => escaping (.brokenDown (.access fault)) []

/-- The reply in which a command ends, early or not. -/
def last : Except Reply Reply → Reply
  | .ok reply => reply
  | .error reply => reply

/-- Prints a text with markup and ends with a code. -/
def telling (exitCode : Nat) (markup : String) (notes : List Note) : Reply :=
  last ((printing markup notes).map (ended exitCode))

/-- Tells of a mistake of the user. -/
def mistaken (message : String) : Reply := telling 2 ("[red]" ++ message ++ "[/red]") []

end Reply

/-- The variables of the environment. -/
abbrev Environment := List (String × String)

namespace Command

/-- Why nothing was put together for a command. -/
inductive SetupFault
  /-- A provider is malformed. -/
  | spec (fault : SpecFault)
  /-- A schema was not read. -/
  | access (fault : AccessFault)

/-- The wording of a fault. -/
def SetupFault.message : SetupFault → String
  | spec fault => fault.message
  | access .nullCharacter => AccessFault.nullCharacter.message
  | access fault => "Cannot read schema: " ++ fault.message

/-- What a command works with, and the suffixes of the files it looks at. The settings have no say
in the suffixes. -/
def assemble (w : Workspace) (environment : Environment) (display : Display)
    (providers syntaxChecked : List String) : Except SetupFault (Setup × List String) :=
  match Settings.parseSpecs providers with
  | .error fault => .error (.spec fault)
  | .ok explicit =>
    match Settings.ofEnvironment environment with
    | .error fault => .error (.spec fault)
    | .ok settings =>
      match Setup.create w display settings explicit syntaxChecked with
      | .error fault => .error (.access fault)
      | .ok setup =>
        .ok (setup, Collect.documentSuffixes ++ explicit.map fun entry => normalizeSuffix entry.1)

/-- What a command works with, unless there is a mistake to tell of. -/
def assembled (w : Workspace) (environment : Environment) (display : Display)
    (providers syntaxChecked : List String) : Except Reply (Setup × List String) :=
  (assemble w environment display providers syntaxChecked).mapError fun fault =>
    .mistaken fault.message

/-- The paths that lead nowhere. -/
def missing (w : Workspace) (paths : List FilePath) : Except AccessFault (List FilePath) :=
  paths.filterM fun path => (w.present path).map not

/-- What is printed of some diagnostics. -/
def shownDiagnostics (w : Workspace) (ds : List Diagnostic) : Except Markup.Fault (List Note) :=
  if ds.isEmpty then .ok []
  else
    (Table.ofDiagnostics (some w.current) ds).map fun table =>
      [.printed table, .printed ("(" ++ toString ds.length ++ " diagnostics)\n")]

/-- Reports on files that were visited. -/
def report (w : Workspace) (files : List FilePath) (visited : Act Unit) : Reply :=
  let store := visited.session.store
  match shownDiagnostics w store.all with
  | .error fault => .escaping (.brokenDown (.markup fault)) visited.notes
  | .ok shown =>
    .ended (if store.errorCount = 0 then 0 else 1)
      (visited.notes ++ shown ++
        [.printed ("Checked " ++ toString files.length ++ " file(s)\n")])

/-- Checks files once. -/
def runCheck (w : Workspace) (environment : Environment) (paths : List FilePath)
    (providers syntaxChecked : List String) : Except Reply Reply := do
  let missing ← Reply.asking (missing w paths)
  if !missing.isEmpty then
    let paths := ", ".intercalate (missing.map FilePath.text)
    throw (.mistaken ("No such file or directory: " ++ paths))
  let (setup, suffixes) ← assembled w environment .silent providers syntaxChecked
  let files ← Reply.asking (Collect.files w suffixes paths)
  return report w files (Session.empty.visit w setup files)

/-- Tells which schema a file has. -/
def runSchema (w : Workspace) (file : FilePath) : Reply :=
  let resolved := Session.empty.resolve w (w.absolute file)
  match resolved.value with
  | .error reason => .escaping (.brokenDown reason) resolved.notes
  | .ok none => .telling 0 ("No schema for " ++ file.text) resolved.notes
  | .ok (some found) => .telling 0 found.text resolved.notes

/-- A directory that is being watched. -/
structure Watching where
  /-- The directory. -/
  root : FilePath
  /-- What the session works with. -/
  setup : Setup
  /-- The suffixes of the files that matter. -/
  suffixes : List String
  /-- The session so far. -/
  session : Session
  /-- The notes so far. -/
  notes : List Note

namespace Watching

/-- Deals with batches of events. Each comes with the files as they are then. -/
def follow (watching : Watching) (batches : List (Workspace × List Watch.Event)) : Watching :=
  let (session, notes) := Watch.run (Watch.hasSuffix watching.suffixes)
    (batches.map fun (w, events) => (Session.listener w watching.setup, events))
    (watching.session, watching.notes)
  { watching with session, notes }

/-- What it has led to once there are no more events. -/
def reply (watching : Watching) : Reply :=
  .ended 0 (watching.notes ++ [.logged (.watchStopped watching.root)])

end Watching

/-- Checks a directory and makes ready for watching it. -/
def beginWatch (w : Workspace) (environment : Environment) (directory : FilePath)
    (providers syntaxChecked : List String) : Except Reply Watching := do
  let isDirectory ← Reply.asking (w.isDirectory directory)
  if !isDirectory then
    throw (.mistaken ("Not a directory: " ++ directory.text))
  let root := w.absolute directory
  let (setup, suffixes) ← assembled w environment (.console (some root)) providers syntaxChecked
  let files ← Reply.asking (Collect.files w suffixes [root])
  let visited := Session.empty.visit w setup files
  let notes ← Reply.printing ("[green]Watching[/green] " ++ root.text ++ " (Ctrl+C to stop)")
    (visited.notes ++ [.logged (.watchStarted root)])
  return { root, setup, suffixes, session := visited.session, notes }

/-- Checks a directory, and its files again when they change. -/
def runWatch (w : Workspace) (environment : Environment) (directory : FilePath)
    (providers syntaxChecked : List String) (batches : List (Workspace × List Watch.Event)) :
    Except Reply Reply := do
  let watching ← beginWatch w environment directory providers syntaxChecked
  return (watching.follow batches).reply

/-- Makes ready for serving the tools. -/
def runServe (w : Workspace) (environment : Environment) (providers : List String) :
    Except Reply Reply := do
  let _ ← assembled w environment .silent providers []
  return .ended 0 []

/-- Carries out a command. -/
def run (w : Workspace) (environment : Environment)
    (batches : List (Workspace × List Watch.Event)) : Command → Reply
  | check paths providers syntaxChecked =>
    .last (runCheck w environment paths providers syntaxChecked)
  | schema file => runSchema w file
  | watch directory providers syntaxChecked =>
    .last (runWatch w environment directory providers syntaxChecked batches)
  | serve providers => .last (runServe w environment providers)

/-- The reply to arguments that ask for nothing. -/
def misused : Arguments.Misuse → Reply
  | .malformed => .ended 2 []
  | .nullCharacter => .escaping (.brokenDown (.access .nullCharacter)) []

/-- Reads the settings, which have to be well formed unless all there is to log was asked for. -/
def consult (environment : Environment) (verbose : Bool) : Except Reply Unit :=
  if verbose then .ok ()
  else
    match Settings.ofEnvironment environment with
    | .error fault => .error (.escaping (.settings fault) [])
    | .ok _ => .ok ()

/-- The command that arguments ask for. -/
def ofArguments (environment : Environment) (arguments : List String) : Except Reply Command := do
  let call ← (Arguments.call false arguments).mapError misused
  consult environment call.verbose
  (call.read ()).mapError misused

end Command

/-- What a command line leads to. -/
def Reply.ofArguments (w : Workspace) (environment : Environment)
    (batches : List (Workspace × List Watch.Event)) (arguments : List String) : Reply :=
  .last ((Command.ofArguments environment arguments).map (·.run w environment batches))

end Conform
