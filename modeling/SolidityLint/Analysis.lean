import SolidityLint.Ast.Lower
import SolidityLint.Engine
import SolidityLint.FileTree
import SolidityLint.Grammar.SourceUnit
import SolidityLint.Report
import SolidityLint.Report.Json
import SolidityLint.Suppression

set_option autoImplicit false

/-! # Analysing sources, files and directories

A source is parsed, run through the engine, and its findings are filtered: first those on silenced
lines go, and are counted, then those that do not matter enough. A run over a path does this for one
file, or for every source below a directory in the order of their paths. All files of a directory
are processed even when one fails, and then the first failure is the outcome of the run. -/

namespace SolidityLint

/-! ## Settings and failures -/

/-- What a run is asked to do. -/
structure Settings where
  /-- Findings below this severity are not reported. -/
  minSeverity : Severity
  honourSuppressions : Bool
  /-- Write the syntax tree of each file next to it. -/
  writeTrees : Bool
  options : Options
deriving Repr, DecidableEq, Inhabited

/-- Everything is reported that no comment silences, and no tree is written. -/
def Settings.default : Settings := ⟨.info, true, false, ⟨false⟩⟩

/-- Why a file could not be analysed. -/
inductive AnalysisError where
  | unreadable (path : String) (cause : FileError)
  /-- The source has a fault; `description` tells which and where. -/
  | unparsable (path : String) (description : String)
  | unwritable (path : String) (cause : FileError)
deriving Repr, DecidableEq, Inhabited

namespace AnalysisError

/-- What is written about a failure. -/
def message : AnalysisError → String
  | unreadable path cause => "Error reading file " ++ path ++ ": " ++ cause.message
  | unparsable path description =>
      "Error parsing Solidity code in " ++ path ++ ": " ++ description
  | unwritable path cause => "Error writing " ++ path ++ ": " ++ cause.message

/-- The failure beneath this one. -/
def cause? : AnalysisError → Option FileError
  | unreadable _ cause | unwritable _ cause => some cause
  | unparsable _ _ => none

end AnalysisError

/-! ## One source -/

/-- The syntax tree of a source text; `path` names it in failures. -/
def Ast.SourceUnit.parse (path source : String) : Except AnalysisError Ast.SourceUnit :=
  let s := Source.ofString source
  match ParseTree.ofSource source with
  | .ok tree => .ok (.lower s tree)
  | .error e => .error (.unparsable path (e.message s.index))

namespace Settings

/-- The lines of a source on which findings are silenced. -/
def silencedLines (settings : Settings) (source : String) : List Nat :=
  if settings.honourSuppressions then Suppression.silencedLines source else []

/-- The report for a file whose syntax tree is given. -/
def report (settings : Settings) (path source : String) (treeFile : Option String)
    (unit : Ast.SourceUnit) : FileReport :=
  let silenced := settings.silencedLines source
  let found := Engine.run settings.options unit
  let kept := found.filter fun d => !silenced.contains d.location.start.line
  { file := path
    diagnostics := kept.filter fun d => settings.minSeverity ≤ d.severity
    suppressed := found.length - kept.length
    treeFile }

/-- The report for a source text that is not in any file. -/
def analyseSource (settings : Settings) (path source : String) :
    Except AnalysisError FileReport := do
  return settings.report path source none (← Ast.SourceUnit.parse path source)

/-! ## Files -/

/-- Writes the syntax tree of a file, if it is to be written. -/
def writeTree (settings : Settings) (t : FileTree) (path : String) (unit : Ast.SourceUnit) :
    Except AnalysisError (FileTree × Option String) :=
  if settings.writeTrees then
    let target := Path.dumpPath path
    match t.writeText target unit.jsonText with
    | .ok t => .ok (t, some target)
    | .error cause => .error (.unwritable target cause)
  else .ok (t, none)

/-- Analyses one file. A failure leaves the files as they were. -/
def analyseFile (settings : Settings) (t : FileTree) (path : String) :
    Except AnalysisError (FileTree × FileReport) :=
  match t.readText path with
  | .error cause => .error (.unreadable path cause)
  | .ok source => do
      let unit ← Ast.SourceUnit.parse path source
      let (t, treeFile) ← settings.writeTree t path unit
      return (t, settings.report path source treeFile unit)

/-- Analyses files one after the other, whether they fail or not. -/
def analyseFiles (settings : Settings) (t : FileTree) :
    List String → FileTree × List (Except AnalysisError FileReport)
  | [] => (t, [])
  | path :: rest =>
      match settings.analyseFile t path with
      | .ok (t, report) =>
          let (t, reports) := settings.analyseFiles t rest
          (t, .ok report :: reports)
      | .error e =>
          let (t, reports) := settings.analyseFiles t rest
          (t, .error e :: reports)

/-- All reports, or the first failure. -/
def allOrFirstError :
    List (Except AnalysisError FileReport) → Except AnalysisError (List FileReport)
  | [] => .ok []
  | .ok report :: rest => (allOrFirstError rest).map (report :: ·)
  | .error e :: _ => .error e

/-- The files that a path stands for. -/
def filesOf (t : FileTree) (path : String) : List String :=
  if t.leadsToDirectory path then t.collect path else [path]

/-- Analyses the file or directory at a path. -/
def analyse (settings : Settings) (t : FileTree) (path : String) :
    FileTree × Except AnalysisError RunReport :=
  let (t', results) := settings.analyseFiles t (filesOf t path)
  (t', (allOrFirstError results).map RunReport.ofReports)

end Settings

end SolidityLint
