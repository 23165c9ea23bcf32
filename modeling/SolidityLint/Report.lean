import SolidityLint.Diagnostic

set_option autoImplicit false

/-! # Reports

What a run over files yields: for each file the findings that are reported and how many were
suppressed, and a summary over all files. -/

namespace SolidityLint

/-- The outcome for one file. -/
structure FileReport where
  file : String
  /-- In the order in which they were found. -/
  diagnostics : List Diagnostic
  /-- How many findings suppression comments silenced. -/
  suppressed : Nat
  /-- Where the syntax tree was written, if it was. -/
  treeFile : Option String
deriving Repr, DecidableEq, Inhabited

/-- What a run counts over all files. -/
structure Summary where
  totalFiles : Nat
  totalDiagnostics : Nat
  infoCount : Nat
  warningCount : Nat
  highCount : Nat
  criticalCount : Nat
  suppressedCount : Nat
deriving Repr, DecidableEq, Inhabited

/-- The outcome of a run. -/
structure RunReport where
  files : List FileReport
  summary : Summary
deriving Repr, DecidableEq, Inhabited

namespace Summary

/-- Counts one finding. -/
def count (s : Summary) (d : Diagnostic) : Summary :=
  let s := { s with totalDiagnostics := s.totalDiagnostics + 1 }
  match d.severity with
  | .info => { s with infoCount := s.infoCount + 1 }
  | .warning => { s with warningCount := s.warningCount + 1 }
  | .high => { s with highCount := s.highCount + 1 }
  | .critical => { s with criticalCount := s.criticalCount + 1 }

/-- Counts what one file has: the findings that were suppressed, and those that are reported. -/
def add (s : Summary) (r : FileReport) : Summary :=
  r.diagnostics.foldl count { s with suppressedCount := s.suppressedCount + r.suppressed }

/-- Nothing is counted yet but the files. -/
def start (totalFiles : Nat) : Summary :=
  ⟨totalFiles, 0, 0, 0, 0, 0, 0⟩

/-- The summary of some reports, counted one after the other. -/
def ofReports (reports : List FileReport) : Summary :=
  reports.foldl add (start reports.length)

end Summary

/-- The outcome of a run with those reports. -/
def RunReport.ofReports (reports : List FileReport) : RunReport :=
  ⟨reports, .ofReports reports⟩

end SolidityLint
