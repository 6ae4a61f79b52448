import Conform.Console.Layout
import Conform.Files.Access
import Conform.Json.Reader
import Conform.Schema.Fault

/-! # Notes

What a session leaves behind beside its state: entries of a log, and texts that were printed. An
entry says what happened, and carries the reason if something broke down.
-/

namespace Conform

/-- Why an act broke down. -/
inductive Breakdown
  /-- An evaluation ended with a fault. -/
  | fault (fault : Fault)
  /-- A number has more digits than are read. -/
  | tooManyDigits (count : Nat)
  /-- A question about a file has no answer. -/
  | access (fault : AccessFault)
  /-- A text with markup cannot be printed. -/
  | markup (fault : Markup.Fault)
  /-- Whoever is told of changes gave up. -/
  | abandoned

/-- The wording of a breakdown. -/
def Breakdown.message : Breakdown → Text
  | .fault reason => reason.message
  | .tooManyDigits count => Text.ofString (ReadError.tooManyDigits count).message
  | .access reason => Text.ofString reason.message
  | .markup reason => Text.ofString ("closing tag '[" ++ reason.body ++ "]' closes nothing")
  | .abandoned => Text.ofString "abandoned"

/-- How much an entry matters. -/
inductive Level
  | info
  | warning
  | error
  deriving DecidableEq, Repr

/-- The name of a level. -/
def Level.text : Level → String
  | info => "INFO"
  | warning => "WARNING"
  | error => "ERROR"

/-- An entry of the log. -/
inductive Entry
  /-- A malformed file has its form checked elsewhere. -/
  | leftToHost (name : String)
  /-- A schema cannot be used to validate a file. -/
  | unusableSchema (label reason : String) (file : FilePath)
  /-- A failure is at a place whose line is not known. -/
  | unknownLine (pointer : Text) (file : FilePath)
  /-- The files beside a file are not known. -/
  | unlisted (directory : FilePath) (fault : AccessFault)
  /-- A file, or the schema for it, was not read. -/
  | unread (file : FilePath) (fault : AccessFault)
  /-- A file or its schema is nested too deeply. -/
  | tooDeep (file : FilePath)
  /-- One of several acts broke down. -/
  | passFailed (reason : Breakdown)
  /-- The visit of a file broke down. -/
  | visitFailed (file : FilePath) (reason : Breakdown)
  /-- A directory is watched from now on. -/
  | watchStarted (directory : FilePath)
  /-- A directory is watched no longer. -/
  | watchStopped (directory : FilePath)
  /-- Files changed and were deleted. -/
  | detected (changed deleted : Nat)
  /-- Telling of changes broke down. -/
  | tellingFailed (reason : Breakdown)

namespace Entry

/-- How much an entry matters. -/
def level : Entry → Level
  | leftToHost _ => .info
  | watchStarted _ => .info
  | watchStopped _ => .info
  | detected _ _ => .info
  | unknownLine _ _ => .warning
  | unlisted _ _ => .warning
  | _ => .error

/-- The wording of an entry. -/
def message : Entry → Text
  | leftToHost name =>
    Text.ofString ("No diagnostic for \"" ++ name ++ "\" since its syntax is checked by the host.")
  | unusableSchema label reason file =>
    Text.ofString
      ("Cannot load schema " ++ label ++ ": " ++ reason ++ " (validating " ++ file.text ++ ")")
  | unknownLine pointer file =>
    Text.ofString "Unknown line number of \"" ++ pointer ++ Text.ofString ("\" in " ++ file.text)
  | unlisted directory fault =>
    Text.ofString ("Cannot list " ++ directory.text ++ ": " ++ fault.message)
  | unread file fault => Text.ofString ("Cannot read " ++ file.text ++ ": " ++ fault.message)
  | tooDeep file => Text.ofString (file.text ++ " is nested too deeply to validate")
  | passFailed _ => Text.ofString "Validation pass failed"
  | visitFailed file _ => Text.ofString ("Validation of " ++ file.text ++ " failed")
  | watchStarted directory => Text.ofString ("Watcher started for " ++ directory.text)
  | watchStopped directory => Text.ofString ("Watcher stopped for " ++ directory.text)
  | detected changed deleted =>
    Text.ofString ("Detected " ++ toString changed ++ " change(s), " ++ toString deleted ++
      " deletion(s)")
  | tellingFailed _ => Text.ofString "Error in watcher callback"

/-- The reason of an entry that something broke down. -/
def reason? : Entry → Option Breakdown
  | passFailed reason => some reason
  | visitFailed _ reason => some reason
  | tellingFailed reason => some reason
  | _ => none

end Entry

/-- What a session leaves behind. -/
inductive Note
  /-- An entry of the log. -/
  | logged (entry : Entry)
  /-- A text that was printed, with its line ends. -/
  | printed (text : String)

namespace Note

/-- The entries among some notes. -/
def entries (notes : List Note) : List Entry :=
  notes.filterMap fun
    | logged entry => some entry
    | printed _ => none

/-- What was printed, in one piece. -/
def output (notes : List Note) : String :=
  notes.foldl (fun shown note =>
    match note with
    | logged _ => shown
    | printed text => shown ++ text) ""

end Note

end Conform
