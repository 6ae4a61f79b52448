import Conform.Entries
import Conform.FilePath

/-! # Diagnostics

A diagnostic is a message about a line of a file. The store keeps the diagnostics of every file in
the order in which they were added, until those of the file are cleared.
-/

namespace Conform

/-- How bad it is. -/
inductive Severity
  | error
  | warning
  | info
  deriving DecidableEq, Repr

namespace Severity

/-- The name of a severity. -/
def text : Severity → String
  | error => "error"
  | warning => "warning"
  | info => "info"

/-- The severity with a name. -/
def ofText? (s : String) : Option Severity := [error, warning, info].find? (·.text == s)

end Severity

/-- A message about a line of a file. -/
structure Diagnostic where
  /-- The file. -/
  file : FilePath
  /-- The message. -/
  message : String
  /-- The line, counted from one. -/
  line : Nat
  /-- The severity. -/
  severity : Severity
  deriving DecidableEq, Repr

/-- The diagnostics by file, in the order in which the files got their first one. -/
structure Store where
  /-- The files with their diagnostics. -/
  entries : List (FilePath × List Diagnostic)
  deriving DecidableEq, Repr

namespace Store

/-- The store without diagnostics. -/
def empty : Store := ⟨[]⟩

/-- The diagnostics of a file. -/
def diagnosticsFor (store : Store) (file : FilePath) : List Diagnostic :=
  (store.entries.lookup file).getD []

/-- Adds a diagnostic to the entry of its file. -/
def addTo (d : Diagnostic) : List (FilePath × List Diagnostic) → List (FilePath × List Diagnostic)
  | [] => [(d.file, [d])]
  | (file, found) :: rest =>
    if file = d.file then (file, found ++ [d]) :: rest else (file, found) :: addTo d rest

/-- Adds a diagnostic. -/
def add (store : Store) (d : Diagnostic) : Store := ⟨addTo d store.entries⟩

/-- Adds several diagnostics in order. -/
def addAll (store : Store) (ds : List Diagnostic) : Store := ds.foldl add store

/-- Removes the diagnostics of a file. -/
def clear (store : Store) (file : FilePath) : Store := ⟨Entries.erase file store.entries⟩

/-- Diagnostics are listed by the written form of their file and by line. -/
def listedBefore (d e : Diagnostic) : Bool :=
  if d.file.text = e.file.text then d.line ≤ e.line else decide (d.file.text < e.file.text)

/-- All diagnostics; those of one line keep their order. -/
def all (store : Store) : List Diagnostic :=
  (store.entries.flatMap (·.2)).mergeSort listedBefore

/-- The number of errors. -/
def errorCount (store : Store) : Nat :=
  (store.all.filter fun d => d.severity = .error).length

end Store

end Conform
