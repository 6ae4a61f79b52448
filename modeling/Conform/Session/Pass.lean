import Conform.Json.Outline
import Conform.Json.Reader
import Conform.Session.Sink

/-! # Passes

A pass reads a file and its schema, evaluates them and puts what it found in the place of the
diagnostics of the file. Nothing is changed before the evaluation has come to an end, so a pass that
breaks down, or ends because a file was not read, leaves all diagnostics as they were.
-/

namespace Conform

/-- What a file is checked against. The text of the schema counts where both are given; without
either the empty schema is used, under which only the form of the file matters. -/
structure Target where
  /-- The file of the schema. -/
  file? : Option FilePath
  /-- The text of the schema. -/
  text? : Option String

namespace Target

/-- The schema of a file. -/
def ofFile (schema : FilePath) : Target := ⟨some schema, none⟩

/-- The schema that a text writes. -/
def ofText (text : String) : Target := ⟨none, some text⟩

/-- The empty schema. -/
def nothing : Target := ⟨none, none⟩

/-- The text of the schema that everything meets. -/
def emptyText : String := "\x7b\x7d"

/-- How a schema is named in entries. -/
def label (target : Target) : String :=
  match target.file? with
  | some schema => schema.text
  | none => "(implicit)"

/-- The text of the schema. -/
def read (w : Workspace) (target : Target) : Except AccessFault String :=
  match target.text?, target.file? with
  | some text, _ => .ok text
  | none, some schema => w.text schema
  | none, none => .ok emptyText

end Target

/-- What was found in a file: a line and a message. -/
structure Finding where
  /-- The line. -/
  line : Nat
  /-- The message. -/
  message : String
  deriving DecidableEq, Repr

/-- The findings of an evaluation, and the entries made during it. -/
structure Evaluation where
  /-- The entries. -/
  entries : List Entry
  /-- The findings. -/
  findings : List Finding

namespace Evaluation

/-- An evaluation without findings. -/
def silent (entry : Entry) : Evaluation := ⟨[entry], []⟩

/-- The reason why a text is not read, for one that is not malformed. -/
def unreadable : ReadError → Breakdown
  | .tooManyDigits count => .tooManyDigits count
  | _ => .fault .tooDeep

/-- The line on which the value at a pointer starts. -/
def lineAt? (outline : Option Outline) (pointer : Text) : Option Nat :=
  outline.bind (·.lineAt? pointer)

/-- The finding of a failure. One whose place has no line is put on the first line. -/
def finding (outline : Option Outline) (failure : Failure) : Finding :=
  ⟨(lineAt? outline failure.pointer).getD 1, failure.text⟩

/-- The entry about a failure whose place has no line. -/
def unlocated? (outline : Option Outline) (file : FilePath) (failure : Failure) : Option Entry :=
  if (lineAt? outline failure.pointer).isNone && !failure.pointer.isEmpty then
    some (.unknownLine failure.pointer file)
  else none

/-- The evaluation that failures give in a text. -/
def ofFailures (file : FilePath) (text : String) : List Failure → Evaluation
  | [] => ⟨[], []⟩
  | failures =>
    let outline := Outline.scan text
    ⟨failures.filterMap (unlocated? outline file), failures.map (finding outline)⟩

/-- Validates a value that a text writes against a schema that another text writes. -/
def ofValue (setup : Setup) (file : FilePath) (text label schemaText : String) (found : Json) :
    Except Breakdown Evaluation :=
  match Json.parse schemaText with
  | .error (.defect fault line) =>
    .ok (silent (.unusableSchema label (ReadError.defect fault line).message file))
  | .error fault => .error (unreadable fault)
  | .ok schema =>
    match setup.validate schema found with
    | .error (.unusable reason) => .ok (silent (.unusableSchema label reason file))
    | .error (.fault fault) => .error (.fault fault)
    | .ok failures => .ok (ofFailures file text failures)

/-- Evaluates the text of a file against the text of a schema. -/
def ofText (setup : Setup) (file : FilePath) (text label schemaText : String) :
    Except Breakdown Evaluation :=
  match Json.parse text with
  | .error (.defect fault line) =>
    if setup.host.checks file then .ok (silent (.leftToHost file.name))
    else .ok ⟨[], [⟨line, fault.message⟩]⟩
  | .error fault => .error (unreadable fault)
  | .ok found => ofValue setup file text label schemaText found

/-- The diagnostics of a file that findings give. All of them are errors. -/
def diagnostics (file : FilePath) (evaluation : Evaluation) : List Diagnostic :=
  evaluation.findings.map fun f => .atLine file f.message f.line .error

end Evaluation

namespace Session

/-- What a pass reads: the text of a file and that of its schema. -/
def readTexts (w : Workspace) (file : FilePath) (target : Target) :
    Except AccessFault (String × String) := do
  let text ← w.text file
  let schemaText ← target.read w
  return (text, schemaText)

/-- Ends a pass whose evaluation has ended. -/
def conclude (setup : Setup) (file : FilePath) (evaluated : Except Breakdown Evaluation)
    (s : Session) : Outcome Unit :=
  match evaluated with
  | .error (.fault .tooDeep) => (s.done ()).logging (.tooDeep file)
  | .error reason => s.broken reason
  | .ok evaluation =>
    (s.replace setup.display file (evaluation.diagnostics file)).after
      (evaluation.entries.map .logged)

/-- Checks a file. -/
def check (w : Workspace) (setup : Setup) (file : FilePath) (target : Target) (s : Session) :
    Outcome Unit :=
  match readTexts w file target with
  | .error .nullCharacter => s.broken (.access .nullCharacter)
  | .error fault => (s.done ()).logging (.unread file fault)
  | .ok (text, schemaText) =>
    conclude setup file (Evaluation.ofText setup file text target.label schemaText) s

end Session

end Conform
