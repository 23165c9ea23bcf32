import SolidityLint.Ast.Encode
import SolidityLint.Json.Printer
import SolidityLint.Report

set_option autoImplicit false

/-! # Reports for programs

The report of a run as JSON, indented by two spaces. -/

namespace SolidityLint

/-- A finding as an object; `reference` is `null` where there is no page. -/
def Diagnostic.toJson (d : Diagnostic) : Json :=
  .obj [("rule_id", .str d.ruleId),
    ("message", .str d.message),
    ("severity", .str d.severity.word),
    ("location", d.location.toJson),
    ("reference", .ofOptionalText d.reference)]

/-- The member for the file of the syntax tree is left out when there is none. -/
def FileReport.toJson (r : FileReport) : Json :=
  .obj ([("file", .str r.file),
    ("diagnostics", .arr (r.diagnostics.map Diagnostic.toJson)),
    ("suppressed", .num r.suppressed)]
    ++ match r.treeFile with
      | some file => [("ast_dump", .str file)]
      | none => [])

/-- The counters of a run. -/
def Summary.toJson (s : Summary) : Json :=
  .obj [("total_files", .num s.totalFiles),
    ("total_diagnostics", .num s.totalDiagnostics),
    ("info_count", .num s.infoCount),
    ("warning_count", .num s.warningCount),
    ("high_count", .num s.highCount),
    ("critical_count", .num s.criticalCount),
    ("suppressed_count", .num s.suppressedCount)]

/-- The reports of all files, then the counters. -/
def RunReport.toJson (r : RunReport) : Json :=
  .obj [("files", .arr (r.files.map FileReport.toJson)), ("analysis_summary", r.summary.toJson)]

/-- The written form of a report. -/
def RunReport.jsonText (r : RunReport) : String :=
  r.toJson.render "  "

/-- The written form of a syntax tree. -/
def Ast.SourceUnit.jsonText (u : Ast.SourceUnit) : String :=
  u.toJson.render "    "

end SolidityLint
