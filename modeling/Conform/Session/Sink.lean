import Conform.Session.Basic

/-! # Changes of the store

The diagnostics of a file are cleared and added one at a time. Each change is shown where changes
are shown; on a console the change itself stays done if what is to be shown cannot be printed,
except that a file is cleared only after that was shown.
-/

namespace Conform

/-- The style in which a severity is shown. -/
def Severity.style : Severity → String
  | error => "red"
  | warning => "yellow"
  | info => "cyan"

namespace Display

/-- What is left behind when a text with markup is shown. -/
def shown (display : Display) (markup : FilePath → Option FilePath → String) (file : FilePath) :
    Except Markup.Fault (List Note) :=
  match display with
  | silent => .ok []
  | console root => (Layout.printed (markup file root)).map fun text => [.printed text]

/-- What is shown of a file that was cleared. -/
def clearedText (file : FilePath) (root : Option FilePath) : String :=
  "[green]Cleared[/green] " ++ Markup.escape (file.shown root)

/-- What is shown of a diagnostic that was added. -/
def addedText (d : Diagnostic) (file : FilePath) (root : Option FilePath) : String :=
  let style := d.severity.style
  "[" ++ style ++ "]" ++ d.severity.text ++ "[/" ++ style ++ "] " ++
    Markup.escape (file.shown root) ++ ":" ++ toString d.line ++ " " ++ Markup.escape d.message

end Display

/-- The diagnostic at a line; lines before the first one count as the first. -/
def Diagnostic.atLine (file : FilePath) (message : String) (line : Int) (severity : Severity) :
    Diagnostic :=
  ⟨file, message, (max line 1).toNat, severity⟩

namespace Session

/-- Clears the diagnostics of a file. Nothing is shown if there are none. -/
def clear (display : Display) (file : FilePath) (s : Session) : Outcome Unit :=
  if (s.store.diagnosticsFor file).isEmpty then s.done ()
  else
    match display.shown Display.clearedText file with
    | .error fault => s.broken (.markup fault)
    | .ok notes => ({ s with store := s.store.clear file }.done ()).after notes

/-- Adds a diagnostic. -/
def add (display : Display) (d : Diagnostic) (s : Session) : Outcome Unit :=
  let s := { s with store := s.store.add d }
  match display.shown (Display.addedText d) d.file with
  | .error fault => s.broken (.markup fault)
  | .ok notes => (s.done ()).after notes

/-- Adds diagnostics in order, up to the first one that cannot be shown. -/
def addAll (display : Display) : List Diagnostic → Session → Outcome Unit
  | [], s => s.done ()
  | d :: rest, s => (s.add display d).andThen fun _ s => addAll display rest s

/-- Puts diagnostics in the place of those of a file. -/
def replace (display : Display) (file : FilePath) (ds : List Diagnostic) (s : Session) :
    Outcome Unit :=
  (s.clear display file).andThen fun _ s => addAll display ds s

end Session

end Conform
