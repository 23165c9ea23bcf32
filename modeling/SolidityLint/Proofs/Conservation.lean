import Mathlib.Algebra.BigOperators.Group.List.Basic
import Mathlib.Algebra.GroupWithZero.Nat
import SolidityLint.Proofs.DirectoryRun

set_option autoImplicit false

/-! # Every finding is accounted for

The findings in a source go three ways: a comment silences them and they are counted, or they matter
too little and are dropped, or they are reported. This file says that no finding goes two ways and
none is lost, for one source (`Settings.suppressed_add_reported_add_dropped`) and for a whole run
over a path.

For a run, `Settings.Reads` says which texts are read and parsed, each when its turn comes; the run
lemma is `Settings.exists_reads_of_analyseFiles`. The summary is counted in a loop over the reports
and over the findings of each; `Summary.Tallies` is the invariant of both loops. So the counters are
sums over the reports, and the law for one source adds up. -/

namespace SolidityLint

open SolidityLint.Path

/-! ## Three ways to go -/

namespace Settings

section Source

variable (settings : Settings) (path source : String) (treeFile : Option String)
  (unit : Ast.SourceUnit)

/-- Does a comment in the source silence the finding? -/
def isSilenced (d : Diagnostic) : Bool :=
  (settings.silencedLines source).contains d.location.start.line

/-- Does the finding matter enough to be reported? -/
def isReportable (d : Diagnostic) : Bool :=
  settings.minSeverity ≤ d.severity

/-- The findings that are not reported for their severity alone. -/
def dropped : List Diagnostic :=
  (Engine.run settings.options unit).filter fun d =>
    !settings.isSilenced source d && !settings.isReportable d

theorem diagnostics_report_eq :
    (settings.report path source treeFile unit).diagnostics
      = (Engine.run settings.options unit).filter fun d =>
          !settings.isSilenced source d && settings.isReportable d := by
  show ((Engine.run settings.options unit).filter fun d => !settings.isSilenced source d).filter
    settings.isReportable = _
  rw [List.filter_filter]
  exact List.filter_congr fun d _ => Bool.and_comm ..

/-- What is missing once the silenced findings are out is what is silenced. -/
theorem suppressed_report_eq :
    (settings.report path source treeFile unit).suppressed
      = (Engine.run settings.options unit).countP (settings.isSilenced source) := by
  have hsplit := List.length_eq_length_filter_add (l := Engine.run settings.options unit)
    (settings.isSilenced source)
  show (Engine.run settings.options unit).length
    - ((Engine.run settings.options unit).filter fun d => !settings.isSilenced source d).length = _
  rw [List.countP_eq_length_filter, hsplit, Nat.add_sub_cancel]

/-- **One source.** What is silenced, what is reported and what is dropped add up to what is
    found. -/
theorem suppressed_add_reported_add_dropped :
    (settings.report path source treeFile unit).suppressed
        + (settings.report path source treeFile unit).diagnostics.length
        + (settings.dropped source unit).length
      = (Engine.run settings.options unit).length := by
  have hsilenced := List.length_eq_length_filter_add (l := Engine.run settings.options unit)
    (settings.isSilenced source)
  have hreportable := List.length_eq_length_filter_add
    (l := (Engine.run settings.options unit).filter fun d => !settings.isSilenced source d)
    settings.isReportable
  have hdropped : (settings.dropped source unit)
      = ((Engine.run settings.options unit).filter fun d => !settings.isSilenced source d).filter
          fun d => !settings.isReportable d := by
    rw [List.filter_filter, dropped]
    exact List.filter_congr fun d _ => Bool.and_comm ..
  rw [hsilenced, hreportable, hdropped, suppressed_report_eq, List.countP_eq_length_filter,
    Nat.add_assoc]
  rfl

/-- No finding of too little severity is reported. -/
theorem minSeverity_le_of_mem_report {d : Diagnostic}
    (h : d ∈ (settings.report path source treeFile unit).diagnostics) :
    settings.minSeverity ≤ d.severity := by
  rw [diagnostics_report_eq, List.mem_filter, Bool.and_eq_true] at h
  exact of_decide_eq_true h.2.2

end Source

theorem severity_le_trans {a b c : Severity} (hab : a ≤ b) (hbc : b ≤ c) : a ≤ c :=
  Nat.le_trans hab hbc

/-- Reporting less keeps the findings that still matter enough. -/
theorem diagnostics_report_raised (settings : Settings) (path source : String)
    (treeFile : Option String) (unit : Ast.SourceUnit) {higher : Severity}
    (h : settings.minSeverity ≤ higher) :
    ({ settings with minSeverity := higher }.report path source treeFile unit).diagnostics
      = (settings.report path source treeFile unit).diagnostics.filter fun d =>
          higher ≤ d.severity := by
  rw [diagnostics_report_eq, diagnostics_report_eq, List.filter_filter]
  refine List.filter_congr fun d _ => ?_
  show (!settings.isSilenced source d && decide (higher ≤ d.severity))
    = (decide (higher ≤ d.severity)
      && (!settings.isSilenced source d && decide (settings.minSeverity ≤ d.severity)))
  by_cases hd : higher ≤ d.severity
  · have hlower : settings.minSeverity ≤ d.severity := severity_le_trans h hd
    rw [decide_eq_true hd, decide_eq_true hlower, Bool.true_and]
  · rw [decide_eq_false hd, Bool.false_and, Bool.and_false]

end Settings

/-! ## The summary of a run -/

/-- The counter of a severity. -/
def Summary.counter (s : Summary) : Severity → Nat
  | .info => s.infoCount
  | .warning => s.warningCount
  | .high => s.highCount
  | .critical => s.criticalCount

namespace Summary

/-- The summary has counted these findings, and so many files and suppressed findings. -/
structure Tallies (s : Summary) (files suppressed : Nat) (found : List Diagnostic) : Prop where
  totalFiles : s.totalFiles = files
  totalDiagnostics : s.totalDiagnostics = found.length
  suppressedCount : s.suppressedCount = suppressed
  counter : ∀ severity, s.counter severity = found.countP fun d => d.severity = severity

namespace Tallies

variable {s : Summary} {files suppressed : Nat} {found : List Diagnostic}

theorem start (files : Nat) : (Summary.start files).Tallies files 0 [] :=
  ⟨rfl, rfl, rfl, fun severity => by cases severity <;> rfl⟩

/-- A finding is counted in the total and under its own severity, and nowhere else. -/
theorem count (h : s.Tallies files suppressed found) (d : Diagnostic) :
    (s.count d).Tallies files suppressed (found ++ [d]) := by
  refine ⟨?_, ?_, ?_, fun severity => ?_⟩
  · rw [← h.totalFiles, Summary.count]
    cases d.severity <;> rfl
  · rw [List.length_append, ← h.totalDiagnostics, Summary.count]
    cases d.severity <;> rfl
  · rw [← h.suppressedCount, Summary.count]
    cases d.severity <;> rfl
  · rw [List.countP_append, ← h.counter, List.countP_singleton, Summary.count]
    cases d.severity <;> cases severity <;> rfl

/-- The loop over the findings of a report. -/
theorem foldl_count (h : s.Tallies files suppressed found) (more : List Diagnostic) :
    (more.foldl Summary.count s).Tallies files suppressed (found ++ more) := by
  induction more generalizing s found with
  | nil => rwa [List.append_nil]
  | cons d rest ih =>
    rw [List.append_cons]
    exact ih (h.count d)

theorem add (h : s.Tallies files suppressed found) (r : FileReport) :
    (s.add r).Tallies files (suppressed + r.suppressed) (found ++ r.diagnostics) := by
  have hsuppressed : { s with suppressedCount := s.suppressedCount + r.suppressed }.Tallies files
      (suppressed + r.suppressed) found := by
    refine ⟨h.totalFiles, h.totalDiagnostics, ?_, fun severity => ?_⟩
    · rw [← h.suppressedCount]
    · rw [← h.counter]
      cases severity <;> rfl
  exact hsuppressed.foldl_count r.diagnostics

/-- The loop over the reports. -/
theorem foldl_add (h : s.Tallies files suppressed found) (reports : List FileReport) :
    (reports.foldl Summary.add s).Tallies files
      (suppressed + (reports.map FileReport.suppressed).sum)
      (found ++ reports.flatMap FileReport.diagnostics) := by
  induction reports generalizing s suppressed found with
  | nil => simpa using h
  | cons r rest ih =>
    rw [List.map_cons, List.sum_cons, List.flatMap_cons, ← Nat.add_assoc, ← List.append_assoc]
    exact ih (h.add r)

end Tallies

variable (reports : List FileReport)

/-- **The summary counts every report.** -/
theorem tallies_ofReports :
    (ofReports reports).Tallies reports.length (reports.map FileReport.suppressed).sum
      (reports.flatMap FileReport.diagnostics) := by
  have h := (Tallies.start reports.length).foldl_add reports
  rwa [Nat.zero_add] at h

theorem counter_ofReports (severity : Severity) :
    (ofReports reports).counter severity
      = (reports.map fun r => r.diagnostics.countP fun d => d.severity = severity).sum := by
  rw [(tallies_ofReports reports).counter, List.countP_flatMap]
  rfl

theorem totalDiagnostics_ofReports :
    (ofReports reports).totalDiagnostics = (reports.map fun r => r.diagnostics.length).sum := by
  rw [(tallies_ofReports reports).totalDiagnostics, List.length_flatMap]

theorem suppressedCount_ofReports :
    (ofReports reports).suppressedCount = (reports.map FileReport.suppressed).sum :=
  (tallies_ofReports reports).suppressedCount

/-- Every finding has one of the four severities. -/
theorem length_eq_countP_severities (found : List Diagnostic) :
    found.length = found.countP (fun d => d.severity = .info)
      + found.countP (fun d => d.severity = .warning)
      + found.countP (fun d => d.severity = .high)
      + found.countP (fun d => d.severity = .critical) := by
  induction found with
  | nil => rfl
  | cons d rest ih =>
    simp only [List.countP_cons, List.length_cons, ih]
    cases d.severity <;> simp <;> omega

theorem totalDiagnostics_eq_counts :
    (ofReports reports).totalDiagnostics
      = (ofReports reports).infoCount + (ofReports reports).warningCount
        + (ofReports reports).highCount + (ofReports reports).criticalCount := by
  have h := tallies_ofReports reports
  have hcounts := length_eq_countP_severities (reports.flatMap FileReport.diagnostics)
  rw [← h.counter, ← h.counter, ← h.counter, ← h.counter] at hcounts
  exact h.totalDiagnostics.trans hcounts

end Summary

/-! ## What a run reads -/

/-- A file that was read and parsed. -/
structure ParsedFile where
  path : String
  source : String
  unit : Ast.SourceUnit

namespace ParsedFile

variable (settings : Settings) (f : ParsedFile)

/-- The findings of the pass over the file. -/
def found : List Diagnostic :=
  Engine.run settings.options f.unit

/-- Those that are not reported for their severity alone. -/
def dropped : List Diagnostic :=
  settings.dropped f.source f.unit

/-- The report for the file. -/
def report : FileReport :=
  settings.report f.path f.source (if settings.writeTrees then some (dumpPath f.path) else none)
    f.unit

theorem suppressed_add_length_add_dropped :
    (f.report settings).suppressed + (f.report settings).diagnostics.length
      + (f.dropped settings).length = (f.found settings).length :=
  settings.suppressed_add_reported_add_dropped ..

end ParsedFile

namespace Settings

/-- Starting on this tree, the files are read, parsed and analysed one after the other, each on the
    tree that the one before it leaves. -/
inductive Reads (settings : Settings) : FileTree → List ParsedFile → Prop where
  | nil (t : FileTree) : Reads settings t []
  | cons {t t' : FileTree} {f : ParsedFile} {rest : List ParsedFile}
      (read : t.readText f.path = .ok f.source)
      (parsed : Ast.SourceUnit.parse f.path f.source = .ok f.unit)
      (analysed : settings.analyseFile t f.path = .ok (t', f.report settings))
      (later : Reads settings t' rest) : Reads settings t (f :: rest)

/-- The step: a file that is analysed was read and parsed. -/
theorem exists_parsedFile_of_analyseFile {settings : Settings} {t t' : FileTree} {path : String}
    {report : FileReport} (h : settings.analyseFile t path = .ok (t', report)) :
    ∃ f : ParsedFile, f.path = path ∧ t.readText path = .ok f.source
      ∧ Ast.SourceUnit.parse path f.source = .ok f.unit ∧ report = f.report settings := by
  have hreport : settings.outcome t path = .ok report := by
    rw [outcome, h]
    rfl
  obtain ⟨e, houtcome, -⟩ | ⟨source, unit, treeFile, hread, hparse, houtcome, htree⟩ :=
    outcome_cases settings t path
  · rw [houtcome] at hreport
    cases hreport
  · rw [houtcome] at hreport
    obtain rfl := Except.ok.inj hreport
    have hfile : treeFile = if settings.writeTrees then some (dumpPath path) else none := by
      obtain ⟨hwrite, hnone, -⟩ | ⟨hwrite, hsome, -⟩ := htree
      · rw [hwrite, hnone]
        rfl
      · rw [hwrite, hsome]
        rfl
    refine ⟨⟨path, source, unit⟩, rfl, hread, hparse, ?_⟩
    rw [hfile]
    rfl

/-- **A run that succeeds.** Every file of it was read and parsed, and has its report. -/
theorem exists_reads_of_analyseFiles {settings : Settings} {t : FileTree} {files : List String}
    {reports : List FileReport} (h : (settings.analyseFiles t files).2 = reports.map .ok) :
    ∃ parsed, settings.Reads t parsed ∧ parsed.map ParsedFile.path = files
      ∧ reports = parsed.map (ParsedFile.report settings) := by
  induction files generalizing t reports with
  | nil =>
    obtain rfl : reports = [] := List.map_eq_nil_iff.1 h.symm
    exact ⟨[], .nil t, rfl, rfl⟩
  | cons path rest ih =>
    rw [analyseFiles] at h
    cases hstep : settings.analyseFile t path with
    | error e =>
      rw [hstep] at h
      cases reports <;> cases h
    | ok result =>
      obtain ⟨t', report⟩ := result
      rw [hstep] at h
      obtain ⟨more, hreports, hmore⟩ : ∃ more, reports = report :: more
          ∧ (settings.analyseFiles t' rest).2 = more.map .ok := by
        cases reports with
        | nil => cases h
        | cons first more =>
          obtain ⟨hfirst, hmore⟩ := List.cons_eq_cons.1 h
          exact ⟨more, by rw [Except.ok.inj hfirst], hmore⟩
      obtain ⟨f, rfl, hread, hparse, rfl⟩ := exists_parsedFile_of_analyseFile hstep
      obtain ⟨parsed, hreads, hpaths, rfl⟩ := ih hmore
      refine ⟨f :: parsed, .cons hread hparse hstep hreads, ?_, hreports⟩
      rw [List.map_cons, hpaths]

/-! ## The laws -/

/-- What becomes of the findings in a source that can be parsed. -/
structure Filters (settings : Settings) (path source : String) (unit : Ast.SourceUnit) :
    Prop where
  /-- With suppressions honoured, the findings on no silenced line that matter enough are reported
      in order, and those on silenced lines are counted, whatever their severity: they are what is
      missing once they are filtered out. -/
  honoured : settings.honourSuppressions = true →
    ∃ report, settings.analyseSource path source = .ok report
      ∧ report.diagnostics = (Engine.run settings.options unit).filter (fun d =>
          d.location.start.line ∉ Suppression.silencedLines source
            ∧ settings.minSeverity ≤ d.severity)
      ∧ report.suppressed = (Engine.run settings.options unit).countP (fun d =>
          d.location.start.line ∈ Suppression.silencedLines source)
      ∧ report.suppressed = (Engine.run settings.options unit).length
          - ((Engine.run settings.options unit).filter fun d =>
              d.location.start.line ∉ Suppression.silencedLines source).length
  /-- Asking for more severity keeps the findings that have it, and the count. -/
  raised : ∀ higher, settings.minSeverity ≤ higher →
    ∃ report less, settings.analyseSource path source = .ok report
      ∧ { settings with minSeverity := higher }.analyseSource path source = .ok less
      ∧ less.diagnostics = report.diagnostics.filter (fun d => higher ≤ d.severity)
      ∧ less.suppressed = report.suppressed
  /-- Without suppressions nothing is silenced. -/
  ignored : settings.honourSuppressions = false →
    ∃ report, settings.analyseSource path source = .ok report
      ∧ report.diagnostics = (Engine.run settings.options unit).filter (fun d =>
          settings.minSeverity ≤ d.severity)
      ∧ report.suppressed = 0

/-- What a run over a path says about the files that it read, and that nothing is missing. -/
structure Accounts (settings : Settings) (t : FileTree) (path : String)
    (parsed : List ParsedFile) (run : RunReport) : Prop where
  reads : settings.Reads t parsed
  paths : parsed.map ParsedFile.path = filesOf t path
  reports : run.files = parsed.map (ParsedFile.report settings)
  /-- The summary is counted report by report, and finding by finding in each. -/
  counted : run.summary = run.files.foldl Summary.add (.start run.files.length)
  totalFiles : run.summary.totalFiles = run.files.length
  /-- The total is the sum of the counters, and of the lengths of the reports. -/
  totalDiagnostics : run.summary.totalDiagnostics
    = run.summary.infoCount + run.summary.warningCount + run.summary.highCount
      + run.summary.criticalCount
  lengths : run.summary.totalDiagnostics = (run.files.map fun r => r.diagnostics.length).sum
  counter : ∀ severity, run.summary.counter severity
    = (run.files.map fun r => r.diagnostics.countP fun d => d.severity = severity).sum
  below : ∀ severity, ¬settings.minSeverity ≤ severity → run.summary.counter severity = 0
  suppressed : run.summary.suppressedCount = (run.files.map FileReport.suppressed).sum
  conserved : run.summary.suppressedCount + run.summary.totalDiagnostics
      + (parsed.map fun f => (f.dropped settings).length).sum
    = (parsed.map fun f => (f.found settings).length).sum

theorem analyseSource_eq (settings : Settings) {path source : String} {unit : Ast.SourceUnit}
    (h : Ast.SourceUnit.parse path source = .ok unit) :
    settings.analyseSource path source = .ok (settings.report path source none unit) := by
  rw [analyseSource, h]
  rfl

theorem filters_of_parse (settings : Settings) {path source : String} {unit : Ast.SourceUnit}
    (h : Ast.SourceUnit.parse path source = .ok unit) : settings.Filters path source unit := by
  refine ⟨?_, ?_, ?_⟩
  · intro hhonour
    have hsilenced : settings.silencedLines source = Suppression.silencedLines source := by
      rw [silencedLines, if_pos hhonour]
    refine ⟨_, settings.analyseSource_eq h, ?_, ?_, ?_⟩
    · rw [diagnostics_report_eq]
      refine List.filter_congr fun d _ => ?_
      simp [isSilenced, isReportable, hsilenced]
    · rw [suppressed_report_eq]
      refine List.countP_congr fun d _ => ?_
      simp [isSilenced, hsilenced]
    · refine congrArg (_ - List.length ·) (List.filter_congr fun d _ => ?_)
      simp [hsilenced]
  · intro higher hhigher
    exact ⟨_, _, settings.analyseSource_eq h, analyseSource_eq _ h,
      settings.diagnostics_report_raised path source none unit hhigher, rfl⟩
  · intro hignore
    have hsilenced : ∀ d, settings.isSilenced source d = false := by
      intro d
      rw [isSilenced, silencedLines, hignore]
      rfl
    refine ⟨_, settings.analyseSource_eq h, ?_, ?_⟩
    · rw [diagnostics_report_eq]
      refine List.filter_congr fun d _ => ?_
      rw [hsilenced d]
      rfl
    · rw [suppressed_report_eq, List.countP_eq_zero]
      intro d _
      simp [hsilenced d]

/-- No report has a finding of too little severity, so that its counter stays at zero. -/
theorem counter_eq_zero {settings : Settings} {parsed : List ParsedFile} {severity : Severity}
    (h : ¬settings.minSeverity ≤ severity) :
    (Summary.ofReports (parsed.map (ParsedFile.report settings))).counter severity = 0 := by
  rw [Summary.counter_ofReports]
  refine List.sum_eq_zero fun count hcount => ?_
  obtain ⟨report, hreport, rfl⟩ := List.mem_map.1 hcount
  obtain ⟨f, -, rfl⟩ := List.mem_map.1 hreport
  rw [List.countP_eq_zero]
  intro d hd hseverity
  have hle := settings.minSeverity_le_of_mem_report _ _ _ _ hd
  rw [of_decide_eq_true hseverity] at hle
  exact h hle

/-- **A whole run.** The law for one source, added up over the files. -/
theorem conserved_of_reports (settings : Settings) (parsed : List ParsedFile) :
    (Summary.ofReports (parsed.map (ParsedFile.report settings))).suppressedCount
        + (Summary.ofReports (parsed.map (ParsedFile.report settings))).totalDiagnostics
        + (parsed.map fun f => (f.dropped settings).length).sum
      = (parsed.map fun f => (f.found settings).length).sum := by
  rw [Summary.suppressedCount_ofReports, Summary.totalDiagnostics_ofReports, List.map_map,
    List.map_map, ← List.sum_map_add, ← List.sum_map_add]
  refine congrArg List.sum (List.map_congr_left fun f _ => ?_)
  exact f.suppressed_add_length_add_dropped settings

theorem exists_accounts {settings : Settings} {t : FileTree} {path : String} {run : RunReport}
    (h : (settings.analyse t path).2 = .ok run) :
    ∃ parsed, settings.Accounts t path parsed run := by
  have hresult : (allOrFirstError (settings.analyseFiles t (filesOf t path)).2).map
      RunReport.ofReports = .ok run := h
  cases hreports : allOrFirstError (settings.analyseFiles t (filesOf t path)).2 with
  | error e =>
    rw [hreports] at hresult
    cases hresult
  | ok reports =>
    rw [hreports] at hresult
    obtain rfl : RunReport.ofReports reports = run := Except.ok.inj hresult
    obtain ⟨parsed, hreads, hpaths, rfl⟩ :=
      exists_reads_of_analyseFiles (allOrFirstError_eq_ok_iff.1 hreports)
    exact ⟨parsed,
      { reads := hreads
        paths := hpaths
        reports := rfl
        counted := rfl
        totalFiles := (Summary.tallies_ofReports _).totalFiles
        totalDiagnostics := Summary.totalDiagnostics_eq_counts _
        lengths := Summary.totalDiagnostics_ofReports _
        counter := Summary.counter_ofReports _
        below := fun severity => counter_eq_zero
        suppressed := Summary.suppressedCount_ofReports _
        conserved := conserved_of_reports settings parsed }⟩

/-- **Filtering loses no finding.** In a source that can be parsed, the findings on silenced lines
    are counted and the others are reported if they matter enough; and over the files of a run that
    succeeds, what is suppressed, what is reported and what is dropped for its severity adds up to
    what the passes find. -/
theorem findings_conserved (settings : Settings) :
    (∀ path source unit, Ast.SourceUnit.parse path source = .ok unit →
      settings.Filters path source unit)
    ∧ ∀ t path run, (settings.analyse t path).2 = .ok run →
      ∃ parsed, settings.Accounts t path parsed run := by
  refine ⟨?_, ?_⟩
  · intro path source unit hparse
    exact settings.filters_of_parse hparse
  · intro t path run hrun
    exact exists_accounts hrun

/-- A source whose one finding is silenced. -/
def silencedSafe : String := "contract safe\x7b\x7d//solcheck-disable-line"

/-- A directory with that source, and with one of whose two findings one matters little. -/
def vaultTree : FileTree where
  files :=
    [(["src", "Safe.sol"], silencedSafe.toUTF8),
      (["src", "Vault.sol"], "contract vault is ERC721\x7b\x7d".toUTF8)]
  directories := []
  workingDirectory := []

theorem exists_ok_of_toOption_map {ε α β : Type} {result : Except ε α} {f : α → β} {b : β}
    (h : result.toOption.map f = some b) : ∃ a, result = .ok a ∧ f a = b := by
  cases result with
  | error e => cases h
  | ok a => exact ⟨a, rfl, Option.some.inj h⟩

/-- Of three findings one is silenced, one reported and one dropped. -/
theorem findings_conserved_vaultTree :
    let settings : Settings := ⟨.warning, true, false, ⟨false⟩⟩
    (∃ unit, Ast.SourceUnit.parse "Safe.sol" silencedSafe = .ok unit
      ∧ (Engine.run settings.options unit).length = 1
      ∧ settings.Filters "Safe.sol" silencedSafe unit)
    ∧ ∃ run, (settings.analyse vaultTree "src").2 = .ok run
      ∧ run.summary = ⟨2, 1, 0, 1, 0, 0, 1⟩
      ∧ ∃ parsed, settings.Accounts vaultTree "src" parsed run := by
  intro settings
  obtain ⟨hsource, hrun⟩ := findings_conserved settings
  have hsafe : (Ast.SourceUnit.parse "Safe.sol" silencedSafe).toOption.map
      (fun unit => (Engine.run settings.options unit).length) = some 1 := by decide +kernel
  -- The files of the tree are listed in order, so sorting leaves the sources as they are.
  have hsources : vaultTree.sourcesBelow ["src"] = [["Safe.sol"], ["Vault.sol"]] :=
    List.mergeSort_of_pairwise (l := [["Safe.sol"], ["Vault.sol"]]) (by decide +kernel)
  have hroot : vaultTree.resolve "src" = .ok ["src"] := rfl
  have hfiles : filesOf vaultTree "src" = ["src/Safe.sol", "src/Vault.sol"] := by
    rw [filesOf_eq_collect hroot (by decide), FileTree.collect_eq hroot, hsources]
    decide +kernel
  have hsummary : (settings.analyse vaultTree "src").2.toOption.map RunReport.summary
      = some ⟨2, 1, 0, 1, 0, 0, 1⟩ := by
    rw [analyse, hfiles]
    decide +kernel
  obtain ⟨unit, hunit, hlength⟩ := exists_ok_of_toOption_map hsafe
  obtain ⟨run, hok, hcounts⟩ := exists_ok_of_toOption_map hsummary
  exact ⟨⟨unit, hunit, hlength, hsource _ _ _ hunit⟩, run, hok, hcounts, hrun _ _ _ hok⟩

end Settings

end SolidityLint
