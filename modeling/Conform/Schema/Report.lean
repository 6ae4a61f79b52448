import Conform.Schema.Cause
import Conform.Schema.Fault

/-! # Reports

A report lists the violations that were found, in order, and says whether a fault ended the search.
A brief report ends with its first violation: what comes later is not looked at, so that it cannot
fail either.
-/

namespace Conform

/-- What an evaluation found. -/
structure Report where
  /-- The violations, in order. -/
  violations : List Violation
  /-- The fault that ended the search. -/
  fault : Option Fault

namespace Report

/-- Nothing was found. -/
def clean : Report := ⟨[], none⟩

/-- One violation at the place that is looked at. -/
def violation (cause : Cause) : Report := ⟨[⟨[], cause, []⟩], none⟩

/-- A violation if a condition fails. -/
def ensure (holds : Bool) (cause : Cause) : Report := if holds then clean else violation cause

/-- A fault and nothing else. -/
def failed (fault : Fault) : Report := ⟨[], some fault⟩

/-- The report of an evaluation that may fail before it reports. -/
def ofExcept : Except Fault Report → Report
  | .ok report => report
  | .error fault => failed fault

/-- Whether nothing further is looked at. -/
def isFinal (brief : Bool) (report : Report) : Bool :=
  report.fault.isSome || (brief && !report.violations.isEmpty)

/-- A report followed by another one, which is made only if the first is not final. -/
def andThen (brief : Bool) (report : Report) (next : Unit → Report) : Report :=
  if report.isFinal brief then report
  else
    let later := next ()
    ⟨report.violations ++ later.violations, later.fault⟩

/-- The reports on several things, one after the other. -/
def each {α : Type} (brief : Bool) (report : α → Report) : List α → Report
  | [] => clean
  | a :: rest => (report a).andThen brief fun _ => each brief report rest

/-- The report seen from the value around it. -/
def within (step : Step) (report : Report) : Report :=
  { report with violations := report.violations.map fun v => { v with path := step :: v.path } }

/-- All violations, unless there was a fault. -/
def all (report : Report) : Except Fault (List Violation) :=
  match report.fault with
  | some fault => .error fault
  | none => .ok report.violations

/-- The first violation. A fault counts only where none was found before. -/
def first? (report : Report) : Except Fault (Option Violation) :=
  match report.violations, report.fault with
  | v :: _, _ => .ok (some v)
  | [], some fault => .error fault
  | [], none => .ok none

/-- Whether there is no violation. A fault counts only where none was found before. -/
def accepts (report : Report) : Except Fault Bool :=
  report.first?.map Option.isNone

end Report

end Conform
