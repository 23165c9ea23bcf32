import SolidityLint.Report
import SolidityLint.Report.Styled

set_option autoImplicit false

/-! # Reports for people

The findings file by file, each with its documentation page on a line below, then a summary; and the
catalogue of rules, one to a line. -/

namespace SolidityLint

/-- The word for a severity, in its colour. -/
def Severity.styled (severity : Severity) : Piece :=
  match severity with
  | info => Style.blue.of severity.label
  | warning => Style.yellow.of severity.label
  | high => Style.red.of severity.label
  | critical => Style.boldRed.of severity.label

/-- `WARNING [SOL-G001] message (line: 7, column: 8)`, and the documentation page if there is
    one. -/
def Diagnostic.styled (d : Diagnostic) : StyledText :=
  [d.severity.styled,
    plain (" [" ++ d.ruleId ++ "] " ++ d.message ++ " (line: " ++ toString d.location.start.line
      ++ ", column: " ++ toString d.location.start.column ++ ")")]
    ++ match d.reference with
      | some reference => [plain "\n    └─ ", Style.dimmed.of reference]
      | none => []

/-- Findings, numbered from `number` on. -/
def numbered (number : Nat) : List Diagnostic → StyledText
  | [] => []
  | d :: rest =>
      plain (" " ++ toString number ++ ". ") :: d.styled ++ plain "\n" :: numbered (number + 1) rest

/-- The findings in a file under its name, or that there are none. -/
def FileReport.styled (r : FileReport) : StyledText :=
  [plain "\n", Style.bold.of r.file, plain "\n"]
    ++ (if r.diagnostics.isEmpty then [plain " No issues found.\n"] else numbered 1 r.diagnostics)
    ++ match r.treeFile with
      | some file => [plain (" AST written to " ++ file ++ "\n")]
      | none => []

/-- The counters of a run, the number of suppressed findings only if there are any. -/
def Summary.styled (s : Summary) : StyledText :=
  [plain "\nSummary:\n",
    plain (" * Files analyzed: " ++ toString s.totalFiles ++ "\n"),
    plain (" * Critical: " ++ toString s.criticalCount ++ "\n"),
    plain (" * High: " ++ toString s.highCount ++ "\n"),
    plain (" * Warning: " ++ toString s.warningCount ++ "\n"),
    plain (" * Info: " ++ toString s.infoCount ++ "\n")]
    ++ (if 0 < s.suppressedCount then
        [plain (" * Suppressed: " ++ toString s.suppressedCount ++ "\n")]
      else [])

/-- The whole report: a title, the files, the summary and a closing line. -/
def RunReport.styled (r : RunReport) : StyledText :=
  [Style.bold.of "Solidity Static Analysis Results", plain "\n",
    plain "================================\n"]
    ++ r.files.flatMap FileReport.styled
    ++ r.summary.styled
    ++ [plain "\nAnalysis complete.\n"]

/-- A rule of the catalogue: its identifier, severity and documentation page. -/
def Rule.styled (rule : Rule) : StyledText :=
  [Style.bold.of rule.id, plain " ", rule.severity.styled]
    ++ (match rule.reference with
      | some reference => [plain " ", Style.dimmed.of reference]
      | none => [])
    ++ [plain "\n"]

/-- The whole catalogue. -/
def Rule.styledCatalogue : StyledText :=
  Rule.catalogue.flatMap Rule.styled

end SolidityLint
