import SolidityLint.Analysis
import SolidityLint.Proofs.FileTrees

set_option autoImplicit false

/-! # The files of a directory in any order

The sources below a directory are analysed on one tree, which the analyses also write to. This file
says that the order of the analyses does not matter.

What one analysis does is `Settings.analyseFile_congr`: an outcome, and perhaps one file that is
written. It writes the tree of a source, which is no source itself, into a directory that is there,
so every analysis finds the sources as they were (`FileTree.SameSources`, kept by
`Settings.sameSources_putAll_written?`). The run lemma is `Settings.analyseFiles_eq`: the outcomes
of a run, in whatever order, are those on the tree that it started with. No two analyses write the
same file, so what is left does not depend on the order either. -/

namespace SolidityLint

open SolidityLint.Path

/-! ## One file -/

/-- The names that a text can be written to at a path. -/
def FileTree.writable (t : FileTree) (path : String) : Except FileError (List String) := do
  let names ← t.resolve path
  if t.isDirectory names then .error .isADirectory else .ok names

theorem FileTree.writeText_eq (t : FileTree) (path text : String) :
    t.writeText path text = (t.writable path).map fun names => t.put names text.toUTF8 := by
  unfold writeText writable
  cases t.resolve path with
  | error e => rfl
  | ok names =>
    simp only [bind, Except.bind]
    split <;> rfl

namespace Settings

/-- What the analysis of a file yields, apart from what it writes. -/
def outcome (settings : Settings) (t : FileTree) (path : String) :
    Except AnalysisError FileReport :=
  (settings.analyseFile t path).map Prod.snd

/-- The file that the analysis of a path writes, if it comes to that. -/
def written? (settings : Settings) (t : FileTree) (path : String) :
    Option (List String × ByteArray) :=
  if settings.writeTrees then do
    let source ← (t.readText path).toOption
    let unit ← (Ast.SourceUnit.parse path source).toOption
    let names ← (t.writable (dumpPath path)).toOption
    return (names, unit.jsonText.toUTF8)
  else none

/-- **What one analysis does.** It depends on the text that it reads and on the place that it
    writes to: on another tree where these are the same, it yields the same and writes the same. -/
theorem analyseFile_congr (settings : Settings) {t t' : FileTree} {path : String}
    (hread : t'.readText path = t.readText path)
    (hwrite : t'.writable (dumpPath path) = t.writable (dumpPath path)) :
    settings.analyseFile t' path
      = (settings.outcome t path).map fun report =>
          (t'.putAll (settings.written? t path).toList, report) := by
  unfold outcome written? analyseFile writeTree
  simp only [FileTree.writeText_eq, hread, hwrite]
  cases t.readText path with
  | error cause => rfl
  | ok source =>
    dsimp only [Except.toOption, bind, Option.bind]
    cases Ast.SourceUnit.parse path source with
    | error e => rfl
    | ok unit =>
      cases settings.writeTrees with
      | false => rfl
      | true => cases t.writable (dumpPath path) <;> rfl

/-- An analysis fails and writes nothing; or it succeeds, and writes the tree if it has to. -/
theorem outcome_cases (settings : Settings) (t : FileTree) (path : String) :
    (∃ e, settings.outcome t path = .error e ∧ settings.written? t path = none)
      ∨ ∃ source unit treeFile, t.readText path = .ok source
        ∧ Ast.SourceUnit.parse path source = .ok unit
        ∧ settings.outcome t path = .ok (settings.report path source treeFile unit)
        ∧ ((settings.writeTrees = false ∧ treeFile = none ∧ settings.written? t path = none)
          ∨ (settings.writeTrees = true ∧ treeFile = some (dumpPath path)
            ∧ ∃ names, t.writable (dumpPath path) = .ok names
              ∧ settings.written? t path = some (names, unit.jsonText.toUTF8))) := by
  unfold outcome written? analyseFile writeTree
  simp only [FileTree.writeText_eq]
  cases t.readText path with
  | error cause => exact .inl ⟨_, rfl, by simp [Except.toOption]⟩
  | ok source =>
    dsimp only [Except.toOption, bind, Option.bind]
    cases hparse : Ast.SourceUnit.parse path source with
    | error e => exact .inl ⟨e, rfl, by simp⟩
    | ok unit =>
      cases settings.writeTrees with
      | false =>
        exact .inr ⟨source, unit, none, rfl, hparse, rfl, .inl ⟨rfl, rfl, by simp⟩⟩
      | true =>
        cases t.writable (dumpPath path) with
        | error cause => exact .inl ⟨_, rfl, by simp⟩
        | ok names =>
          exact .inr ⟨source, unit, _, rfl, hparse, rfl, .inr ⟨rfl, rfl, names, rfl, rfl⟩⟩

end Settings

/-! ## Trees with the same sources -/

namespace FileTree

/-- The second tree has the directories of the first, and each source as it is in the first. -/
structure SameSources (t t' : FileTree) : Prop where
  workingDirectory : t'.workingDirectory = t.workingDirectory
  isDirectory : ∀ names, t'.isDirectory names = t.isDirectory names
  lookup : ∀ names, isSource names = true → t'.files.lookup names = t.files.lookup names

namespace SameSources

variable {t t' : FileTree}

theorem refl (t : FileTree) : t.SameSources t :=
  ⟨rfl, fun _ => rfl, fun _ _ => rfl⟩

theorem follow (h : t.SameSources t') {place segments names : List String}
    (hfollow : t.follow place segments = .ok names) : t'.follow place segments = .ok names := by
  induction segments generalizing place with
  | nil => exact hfollow
  | cons segment rest ih =>
    rw [FileTree.follow] at hfollow ⊢
    rw [h.isDirectory]
    split at hfollow
    · cases hfollow
    · next hplace =>
      rw [if_neg hplace]
      split at hfollow
      · next hidle => rw [if_pos hidle, ih hfollow]
      · next hidle =>
        rw [if_neg hidle]
        split at hfollow
        · next hparent => rw [if_pos hparent, ih hfollow]
        · next hparent => rw [if_neg hparent, ih hfollow]

theorem resolve (h : t.SameSources t') {path : String} {names : List String}
    (hpath : t.resolve path = .ok names) : t'.resolve path = .ok names := by
  have hne := ne_empty_of_resolve hpath
  have hstart (segs : List String) : t'.start segs = t.start segs := by
    rw [start, start, h.workingDirectory]
  rw [resolve_eq_follow _ hne] at hpath ⊢
  rw [hstart]
  exact h.follow hpath

section Source

variable {directory names : List String} {path : String}

theorem readText (h : t.SameSources t') (hpath : t.LeadsToSource directory path names) :
    t'.readText path = t.readText path := by
  unfold FileTree.readText
  rw [h.resolve hpath.resolve_path, hpath.resolve_path]
  simp only [bind, Except.bind, h.lookup names hpath.source.isSource, h.isDirectory]

theorem writable (h : t.SameSources t') (hpath : t.LeadsToSource directory path names) :
    t'.writable (dumpPath path) = t.writable (dumpPath path) := by
  unfold FileTree.writable
  rw [h.resolve hpath.resolve_dumpPath, hpath.resolve_dumpPath]
  simp only [bind, Except.bind, h.isDirectory]

end Source

/-- A tree that is written leaves the sources as they are. -/
theorem put_dumpNames (h : t.SameSources t') {names : List String}
    (hdirectory : t.isDirectory names.dropLast = true) (content : ByteArray) :
    t.SameSources (t'.put (dumpNames names) content) := by
  refine ⟨?_, fun other => ?_, fun other hsource => ?_⟩
  · rw [put_workingDirectory, h.workingDirectory]
  · rw [← h.isDirectory] at hdirectory
    rw [dumpNames, isDirectory_put hdirectory, h.isDirectory]
  · have hne : other ≠ dumpNames names := by
      rintro rfl
      exact absurd (isSource_dumpNames names) (by simp [hsource])
    rw [lookup_put, if_neg hne, h.lookup other hsource]

end SameSources

end FileTree

namespace Settings

variable {settings : Settings} {t t' : FileTree} {directory names : List String} {path : String}

/-! ## Step after step -/

theorem eq_dumpNames_of_writable (hpath : t.LeadsToSource directory path names)
    {target : List String} (h : t.writable (dumpPath path) = .ok target) :
    target = FileTree.dumpNames names := by
  unfold FileTree.writable at h
  rw [hpath.resolve_dumpPath] at h
  simp only [bind, Except.bind] at h
  split at h
  · cases h
  · exact (Except.ok.inj h).symm

/-- A file that is analysed has its tree written, where that is asked for. -/
theorem written?_of_outcome (hpath : t.LeadsToSource directory path names)
    (htrees : settings.writeTrees = true) {report : FileReport}
    (h : settings.outcome t path = .ok report) :
    ∃ source unit, t.readText path = .ok source ∧ Ast.SourceUnit.parse path source = .ok unit
      ∧ report.treeFile = some (dumpPath path)
      ∧ settings.written? t path = some (FileTree.dumpNames names, unit.jsonText.toUTF8) := by
  obtain ⟨e, herror, -⟩ | ⟨source, unit, treeFile, hread, hparse, hok, hwrite⟩ :=
    outcome_cases settings t path
  · rw [h] at herror
    cases herror
  · rw [h] at hok
    obtain rfl := Except.ok.inj hok
    obtain ⟨hoff, -⟩ | ⟨-, hfile, target, htarget, hwritten⟩ := hwrite
    · rw [htrees] at hoff
      cases hoff
    · rw [eq_dumpNames_of_writable hpath htarget] at hwritten
      exact ⟨source, unit, hread, hparse, hfile, hwritten⟩

/-- What is written is the tree of the source, and only of one that is analysed. -/
theorem outcome_of_written? (hpath : t.LeadsToSource directory path names)
    {f : List String × ByteArray} (hf : settings.written? t path = some f) :
    f.1 = FileTree.dumpNames names ∧ settings.writeTrees = true
      ∧ ∃ report, settings.outcome t path = .ok report := by
  obtain ⟨e, -, hnone⟩ | ⟨source, unit, treeFile, -, -, hok, hwrite⟩ :=
    outcome_cases settings t path
  · rw [hf] at hnone
    cases hnone
  · obtain ⟨-, -, hnone⟩ | ⟨htrees, -, target, htarget, hsome⟩ := hwrite
    · rw [hf] at hnone
      cases hnone
    · rw [hf, Option.some_inj] at hsome
      rw [hsome]
      exact ⟨eq_dumpNames_of_writable hpath htarget, htrees, _, hok⟩

theorem sameSources_putAll_written? (h : t.SameSources t')
    (hpath : t.LeadsToSource directory path names) :
    t.SameSources (t'.putAll (settings.written? t path).toList) := by
  cases hwritten : settings.written? t path with
  | none => exact h
  | some f =>
    show t.SameSources (t'.put f.1 f.2)
    rw [(outcome_of_written? hpath hwritten).1]
    exact h.put_dumpNames hpath.isDirectory f.2

/-- **A whole run.** The outcomes are those on the tree at the start, and so is what is written. -/
theorem analyseFiles_eq (h : t.SameSources t') {order : List String}
    (horder : ∀ path ∈ order, ∃ names, t.LeadsToSource directory path names) :
    settings.analyseFiles t' order
      = (t'.putAll (order.filterMap (settings.written? t)), order.map (settings.outcome t)) := by
  induction order generalizing t' with
  | nil => rfl
  | cons path rest ih =>
    obtain ⟨names, hpath⟩ := horder path (by simp)
    have hrest := fun p hp => horder p (List.mem_cons_of_mem path hp)
    rw [analyseFiles, analyseFile_congr settings (h.readText hpath) (h.writable hpath),
      List.map_cons]
    -- A step that fails leaves the tree; one that succeeds keeps the sources, so the rest of the
    -- run starts from a tree that the induction covers.
    obtain ⟨e, houtcome, hwritten⟩ | ⟨source, unit, treeFile, -, -, houtcome, -⟩ :=
      outcome_cases settings t path
    · rw [houtcome, List.filterMap_cons_none hwritten]
      simp only [Except.map, ih h hrest]
    · rw [houtcome]
      simp only [Except.map, ih (sameSources_putAll_written? h hpath) hrest]
      cases hwritten : settings.written? t path with
      | none =>
        rw [List.filterMap_cons_none hwritten]
        rfl
      | some f =>
        rw [List.filterMap_cons_some hwritten]
        rfl

/-! ## What is left on the tree -/

section Collected

variable {root : String}

/-- No two sources have their trees written to the same file. -/
theorem eq_of_written?_eq (ht : t.WellFormed) (hroot : t.resolve root = .ok directory)
    {other : String} (hpath : path ∈ t.collect root) (hother : other ∈ t.collect root)
    {f g : List String × ByteArray} (hf : settings.written? t path = some f)
    (hg : settings.written? t other = some g) (h : f.1 = g.1) : f = g := by
  obtain ⟨names, hnames⟩ := FileTree.leadsToSource_of_mem_collect ht hroot hpath
  obtain ⟨names', hnames'⟩ := FileTree.leadsToSource_of_mem_collect ht hroot hother
  rw [(outcome_of_written? hnames hf).1, (outcome_of_written? hnames' hg).1] at h
  obtain rfl := FileTree.dumpNames_inj hnames.source.isSource hnames'.source.isSource h
  obtain rfl := FileTree.eq_of_mem_collect ht hroot hpath hother
    (hnames.resolve_path.trans hnames'.resolve_path.symm)
  exact Option.some_inj.1 (hf.symm.trans hg)

/-- A tree that was written is there at the end, whatever else was written and in which order. -/
theorem lookup_putAll_written? (ht : t.WellFormed) (hroot : t.resolve root = .ok directory)
    {order : List String} (horder : ∀ p ∈ order, p ∈ t.collect root) (hpath : path ∈ order)
    {f : List String × ByteArray} (hf : settings.written? t path = some f) :
    (t.putAll (order.filterMap (settings.written? t))).files.lookup f.1 = some f.2 := by
  refine FileTree.lookup_putAll_of_mem (List.mem_filterMap.2 ⟨path, hpath, hf⟩) ?_
  intro g hg hnames
  obtain ⟨other, hother, hg⟩ := List.mem_filterMap.1 hg
  rw [eq_of_written?_eq ht hroot (horder other hother) (horder path hpath) hg hf hnames]

/-- A file that is the tree of no file that was analysed has what it had. -/
theorem exists_written?_of_lookup_ne {order : List String} {file : List String}
    (h : (t.putAll (order.filterMap (settings.written? t))).files.lookup file
      ≠ t.files.lookup file) :
    ∃ path ∈ order, ∃ f, settings.written? t path = some f ∧ f.1 = file := by
  by_contra hnone
  refine h (FileTree.lookup_putAll_of_notMem fun f hf hfile => hnone ?_)
  obtain ⟨path, hpath, hwritten⟩ := List.mem_filterMap.1 hf
  exact ⟨path, hpath, f, hwritten, hfile⟩

end Collected

end Settings

/-- Two trees with the same directories, whose files have the same contents. -/
structure FileTree.SameFiles (t t' : FileTree) : Prop where
  workingDirectory : t'.workingDirectory = t.workingDirectory
  directories : t'.directories = t.directories
  lookup : ∀ names, t'.files.lookup names = t.files.lookup names

namespace Settings

variable {settings : Settings} {t : FileTree} {directory : List String} {root : String}

theorem sameFiles_of_perm (ht : t.WellFormed) (hroot : t.resolve root = .ok directory)
    {order : List String} (horder : order.Perm (t.collect root)) :
    (t.putAll ((t.collect root).filterMap (settings.written? t))).SameFiles
      (t.putAll (order.filterMap (settings.written? t))) := by
  refine ⟨by simp, by simp, fun names => ?_⟩
  by_cases hwritten : ∃ path ∈ order, ∃ f, settings.written? t path = some f ∧ f.1 = names
  · obtain ⟨path, hpath, f, hf, rfl⟩ := hwritten
    rw [lookup_putAll_written? ht hroot (fun p hp => horder.mem_iff.1 hp) hpath hf,
      lookup_putAll_written? ht hroot (fun p hp => hp) (horder.mem_iff.1 hpath) hf]
  · have hkept (files : List String) (hfiles : ∀ p ∈ files, p ∈ order) :
        (t.putAll (files.filterMap (settings.written? t))).files.lookup names
          = t.files.lookup names := by
      by_contra hne
      obtain ⟨path, hpath, hf⟩ := exists_written?_of_lookup_ne hne
      exact hwritten ⟨path, hfiles path hpath, hf⟩
    rw [hkept order fun p hp => hp, hkept (t.collect root) fun p hp => horder.mem_iff.2 hp]

/-! ## Outcomes of a run -/

theorem allOrFirstError_eq_ok_iff {results : List (Except AnalysisError FileReport)}
    {reports : List FileReport} :
    allOrFirstError results = .ok reports ↔ results = reports.map .ok := by
  induction results generalizing reports with
  | nil =>
    rw [allOrFirstError, Except.ok.injEq, List.nil_eq, List.nil_eq, List.map_eq_nil_iff]
  | cons result rest ih =>
    cases result with
    | error e => cases reports <;> simp [allOrFirstError]
    | ok report =>
      rw [allOrFirstError]
      cases reports with
      | nil => cases allOrFirstError rest <;> simp [Except.map]
      | cons first more =>
        rw [List.map_cons, List.cons_eq_cons, ← ih]
        cases allOrFirstError rest with
        | error e => simp [Except.map]
        | ok reports => simp [Except.map]

theorem allOrFirstError_ok_cons_eq_error_iff {report : FileReport}
    {rest : List (Except AnalysisError FileReport)} {e : AnalysisError} :
    allOrFirstError (.ok report :: rest) = .error e ↔ allOrFirstError rest = .error e := by
  rw [allOrFirstError]
  cases allOrFirstError rest <;> simp [Except.map]

/-- Of files in order, the failure is that of the least file that fails. -/
theorem allOrFirstError_map_eq_error_iff {f : String → Except AnalysisError FileReport}
    {files : List String} (hsorted : files.Pairwise Before) {e : AnalysisError} :
    allOrFirstError (files.map f) = .error e ↔ ∃ path ∈ files, f path = .error e
      ∧ ∀ other ∈ files, (∃ e', f other = .error e') → other = path ∨ Before path other := by
  induction files with
  | nil => simp [allOrFirstError]
  | cons first rest ih =>
    obtain ⟨hfirst, hrest⟩ := List.pairwise_cons.1 hsorted
    rw [List.map_cons]
    cases hf : f first with
    | error e' =>
      rw [allOrFirstError, Except.error.injEq]
      constructor
      · rintro rfl
        refine ⟨first, by simp, hf, fun other hother _ => ?_⟩
        exact (List.mem_cons.1 hother).imp_right (hfirst other)
      · rintro ⟨path, hpath, hfails, hleast⟩
        obtain rfl | hbefore := hleast first (by simp) ⟨e', hf⟩
        · exact Except.error.inj (hf.symm.trans hfails)
        · obtain rfl | hpath := List.mem_cons.1 hpath
          · exact absurd hbefore hbefore.asymm
          · exact absurd hbefore (hfirst path hpath).asymm
    | ok report =>
      rw [allOrFirstError_ok_cons_eq_error_iff, ih hrest]
      constructor
      · rintro ⟨path, hpath, hfails, hleast⟩
        refine ⟨path, List.mem_cons_of_mem _ hpath, hfails, fun other hother hfails' => ?_⟩
        obtain rfl | hother := List.mem_cons.1 hother
        · obtain ⟨e', he'⟩ := hfails'
          rw [hf] at he'
          cases he'
        · exact hleast other hother hfails'
      · rintro ⟨path, hpath, hfails, hleast⟩
        obtain rfl | hpath := List.mem_cons.1 hpath
        · rw [hf] at hfails
          cases hfails
        · exact ⟨path, hpath, hfails, fun other hother =>
            hleast other (List.mem_cons_of_mem _ hother)⟩

/-! ## Any order -/

/-- Analyses the sources below a directory in this order, and puts their outcomes in the order of
    the sources. -/
def analyseInOrder (settings : Settings) (t : FileTree) (path : String) (order : List String) :
    FileTree × Except AnalysisError RunReport :=
  let (t', outcomes) := settings.analyseFiles t order
  let ordered := (filesOf t path).filterMap fun file => (order.zip outcomes).lookup file
  (t', (allOrFirstError ordered).map RunReport.ofReports)

theorem lookup_zip_map {α : Type} (f : String → α) {order : List String} {path : String}
    (h : path ∈ order) : (order.zip (order.map f)).lookup path = some (f path) := by
  induction order with
  | nil => cases h
  | cons first rest ih =>
    rw [List.map_cons, List.zip_cons_cons, List.lookup_cons]
    by_cases hfirst : path = first
    · simp [hfirst]
    · rw [beq_false_of_ne hfirst]
      exact ih ((List.mem_cons.1 h).resolve_left hfirst)

theorem filesOf_eq_collect (hroot : t.resolve root = .ok directory)
    (hdirectory : t.isDirectory directory = true) : filesOf t root = t.collect root := by
  have hleads : t.leadsToDirectory root = true := by
    rw [FileTree.leadsToDirectory, hroot]
    exact hdirectory
  rw [filesOf, if_pos hleads]

section Directory

variable (settings) (ht : t.WellFormed) (hroot : t.resolve root = .ok directory)
  (hdirectory : t.isDirectory directory = true)

include ht hroot hdirectory

theorem analyse_eq :
    settings.analyse t root
      = (t.putAll ((t.collect root).filterMap (settings.written? t)),
        (allOrFirstError ((t.collect root).map (settings.outcome t))).map
          RunReport.ofReports) := by
  rw [analyse, filesOf_eq_collect hroot hdirectory, analyseFiles_eq (.refl t) fun path hpath =>
    FileTree.leadsToSource_of_mem_collect ht hroot hpath]

theorem analyseInOrder_eq {order : List String} (horder : order.Perm (t.collect root)) :
    settings.analyseInOrder t root order
      = (t.putAll (order.filterMap (settings.written? t)),
        (allOrFirstError ((t.collect root).map (settings.outcome t))).map
          RunReport.ofReports) := by
  have hordered : (t.collect root).filterMap
      (fun file => (order.zip (order.map (settings.outcome t))).lookup file)
        = (t.collect root).map (settings.outcome t) := by
    refine (List.filterMap_congr fun file hfile => ?_).trans (congrFun List.filterMap_eq_map _)
    exact lookup_zip_map _ (horder.mem_iff.2 hfile)
  rw [analyseInOrder, analyseFiles_eq (.refl t) fun path hpath =>
    FileTree.leadsToSource_of_mem_collect ht hroot (horder.mem_iff.1 hpath)]
  simp only [filesOf_eq_collect hroot hdirectory, hordered]

end Directory

/-- What a run over the sources below a directory does: `files` are the paths of the sources, `t`
    the tree before the run and `after` the tree after it. -/
structure IsDirectoryRun (settings : Settings) (t : FileTree) (directory : List String)
    (files : List String) (after : FileTree) (result : Except AnalysisError RunReport) : Prop where
  increasing : files.Pairwise Before
  leads : ∀ path ∈ files, ∃ names, t.IsSourceBelow directory names ∧ t.resolve path = .ok names
  once : ∀ names, t.IsSourceBelow directory names →
    ∃! path, path ∈ files ∧ t.resolve path = .ok names
  /-- A report for each file, which is what the file gets by itself. -/
  ok_iff : ∀ run, result = .ok run ↔
    files.map (settings.outcome t) = run.files.map .ok ∧ run = .ofReports run.files
  named : ∀ run, result = .ok run → run.files.map FileReport.file = files
  fails_iff : (∃ e, result = .error e) ↔ ∃ path ∈ files, ∃ e, settings.outcome t path = .error e
  /-- The failure is that of the least file that fails. -/
  error_iff : ∀ e, result = .error e ↔ ∃ path ∈ files, settings.outcome t path = .error e
    ∧ ∀ other ∈ files, (∃ e', settings.outcome t other = .error e') →
      other = path ∨ Before path other
  /-- A file that is analysed has its tree written, whether others fail or not. -/
  dumped : settings.writeTrees = true → ∀ path ∈ files, ∀ names report,
    t.resolve path = .ok names → settings.outcome t path = .ok report →
      ∃ source unit, t.readText path = .ok source ∧ Ast.SourceUnit.parse path source = .ok unit
        ∧ report.treeFile = some (dumpPath path)
        ∧ t.resolve (dumpPath path) = .ok (FileTree.dumpNames names)
        ∧ after.files.lookup (FileTree.dumpNames names) = some unit.jsonText.toUTF8
  /-- No other file changes. -/
  unchanged : ∀ file, after.files.lookup file ≠ t.files.lookup file →
    settings.writeTrees = true ∧ ∃ path ∈ files, ∃ names report, t.resolve path = .ok names
      ∧ settings.outcome t path = .ok report ∧ file = FileTree.dumpNames names
  places : after.directories = t.directories ∧ after.workingDirectory = t.workingDirectory

theorem file_of_outcome {path : String} {report : FileReport}
    (h : settings.outcome t path = .ok report) : report.file = path := by
  obtain ⟨e, houtcome, -⟩ | ⟨source, unit, treeFile, -, -, houtcome, -⟩ :=
    outcome_cases settings t path
  · rw [houtcome] at h
    cases h
  · rw [houtcome] at h
    exact Except.ok.inj h ▸ rfl

theorem map_file_eq {files : List String} {reports : List FileReport}
    (h : files.map (settings.outcome t) = reports.map .ok) :
    reports.map FileReport.file = files := by
  induction files generalizing reports with
  | nil =>
    rw [List.map_nil, List.nil_eq, List.map_eq_nil_iff] at h
    rw [h, List.map_nil]
  | cons path rest ih =>
    cases reports with
    | nil => cases h
    | cons report more =>
      rw [List.map_cons, List.map_cons, List.cons_eq_cons] at h
      rw [List.map_cons, file_of_outcome h.1, ih h.2]

section Result

variable {files : List String}

theorem result_eq_ok_iff {run : RunReport} :
    (allOrFirstError (files.map (settings.outcome t))).map RunReport.ofReports = .ok run
      ↔ files.map (settings.outcome t) = run.files.map .ok ∧ run = .ofReports run.files := by
  rw [← allOrFirstError_eq_ok_iff]
  cases allOrFirstError (files.map (settings.outcome t)) with
  | error e => simp [Except.map]
  | ok reports =>
    simp only [Except.map, Except.ok.injEq]
    constructor
    · rintro rfl
      exact ⟨rfl, rfl⟩
    · rintro ⟨rfl, hrun⟩
      exact hrun.symm

theorem result_eq_error_iff {e : AnalysisError} :
    (allOrFirstError (files.map (settings.outcome t))).map RunReport.ofReports = .error e
      ↔ allOrFirstError (files.map (settings.outcome t)) = .error e := by
  cases allOrFirstError (files.map (settings.outcome t)) <;> simp [Except.map]

/-- A run fails if one of its files does. -/
theorem exists_error_iff :
    (∃ e, allOrFirstError (files.map (settings.outcome t)) = .error e)
      ↔ ∃ path ∈ files, ∃ e, settings.outcome t path = .error e := by
  induction files with
  | nil => simp [allOrFirstError]
  | cons first rest ih =>
    rw [List.map_cons, List.exists_mem_cons_iff]
    cases settings.outcome t first with
    | error e => simp [allOrFirstError]
    | ok report =>
      rw [exists_congr fun e => allOrFirstError_ok_cons_eq_error_iff, ih]
      simp

end Result

theorem isDirectoryRun_analyse (settings : Settings) (ht : t.WellFormed)
    (hroot : t.resolve root = .ok directory) (hdirectory : t.isDirectory directory = true) :
    settings.IsDirectoryRun t directory (t.collect root) (settings.analyse t root).1
      (settings.analyse t root).2 := by
  rw [analyse_eq settings ht hroot hdirectory]
  have hsorted := FileTree.collect_pairwise_before ht hroot
  refine
    { increasing := hsorted
      leads := ?_
      once := fun names hnames => FileTree.existsUnique_mem_collect ht hroot hnames
      ok_iff := fun run => result_eq_ok_iff
      named := fun run hrun => map_file_eq (result_eq_ok_iff.1 hrun).1
      fails_iff := ?_
      error_iff := fun e => result_eq_error_iff.trans (allOrFirstError_map_eq_error_iff hsorted)
      dumped := ?_
      unchanged := ?_
      places := by simp }
  · intro path hpath
    obtain ⟨names, hnames⟩ := FileTree.leadsToSource_of_mem_collect ht hroot hpath
    exact ⟨names, hnames.source, hnames.resolve_path⟩
  · rw [← exists_error_iff]
    exact exists_congr fun e => result_eq_error_iff
  · intro htrees path hpath names report hnames hreport
    obtain ⟨names', hleads⟩ := FileTree.leadsToSource_of_mem_collect ht hroot hpath
    obtain rfl : names' = names := Except.ok.inj (hleads.resolve_path.symm.trans hnames)
    obtain ⟨source, unit, hread, hparse, hfile, hwritten⟩ :=
      written?_of_outcome hleads htrees hreport
    exact ⟨source, unit, hread, hparse, hfile, hleads.resolve_dumpPath,
      lookup_putAll_written? ht hroot (fun p hp => hp) hpath hwritten⟩
  · intro file hfile
    obtain ⟨path, hpath, f, hf, rfl⟩ := exists_written?_of_lookup_ne hfile
    obtain ⟨names, hleads⟩ := FileTree.leadsToSource_of_mem_collect ht hroot hpath
    obtain ⟨hnames, htrees, report, hreport⟩ := outcome_of_written? hleads hf
    exact ⟨htrees, path, hpath, names, report, hleads.resolve_path, hreport, hnames⟩

/-- **The order does not matter.** Whatever order the sources below a directory are analysed in,
    the result is that of the run in order, and so are the files that the run leaves. Each source
    has the outcome that it has by itself on the tree at the start; the failure of a run is that of
    the least source that fails, and the trees of the sources that do not fail are written all the
    same. -/
theorem analyse_any_order (settings : Settings) (ht : t.WellFormed)
    (hroot : t.resolve root = .ok directory) (hdirectory : t.isDirectory directory = true)
    {order : List String} (horder : order.Perm (filesOf t root)) :
    (settings.analyseInOrder t root order).2 = (settings.analyse t root).2
      ∧ (settings.analyse t root).1.SameFiles (settings.analyseInOrder t root order).1
      ∧ settings.IsDirectoryRun t directory (filesOf t root) (settings.analyse t root).1
        (settings.analyse t root).2 := by
  rw [filesOf_eq_collect hroot hdirectory] at horder ⊢
  refine ⟨?_, ?_, isDirectoryRun_analyse settings ht hroot hdirectory⟩
  · rw [analyseInOrder_eq settings ht hroot hdirectory horder,
      analyse_eq settings ht hroot hdirectory]
  · rw [analyseInOrder_eq settings ht hroot hdirectory horder,
      analyse_eq settings ht hroot hdirectory]
    exact sameFiles_of_perm ht hroot horder

/-- A directory with a source that has a fault, a sound one and one that is no text. -/
def mixedTree : FileTree where
  files :=
    [(["src", "a", "B.sol"], "contract \x7b".toUTF8),
      (["src", "a-b.sol"], "contract A\x7b\x7d".toUTF8),
      (["src", "notes.txt"], "".toUTF8),
      (["src", "z.sol"], ⟨#[255]⟩)]
  directories := []
  workingDirectory := []

/-- The first and the last source fail, and the last is analysed first. -/
theorem analyse_any_order_mixedTree :
    let settings : Settings := ⟨.info, true, true, ⟨false⟩⟩
    let order := ["src/z.sol", "src/a-b.sol", "src/a/B.sol"]
    filesOf mixedTree "src" = ["src/a/B.sol", "src/a-b.sol", "src/z.sol"]
      ∧ (filesOf mixedTree "src").map
          (fun path => (settings.outcome mixedTree path).toOption.isSome) = [false, true, false]
      ∧ mixedTree.WellFormed ∧ mixedTree.resolve "src" = .ok ["src"]
      ∧ mixedTree.isDirectory ["src"] = true ∧ order.Perm (filesOf mixedTree "src")
      ∧ (settings.analyseInOrder mixedTree "src" order).2 = (settings.analyse mixedTree "src").2
      ∧ (settings.analyse mixedTree "src").1.SameFiles
        (settings.analyseInOrder mixedTree "src" order).1
      ∧ settings.IsDirectoryRun mixedTree ["src"] (filesOf mixedTree "src")
        (settings.analyse mixedTree "src").1 (settings.analyse mixedTree "src").2 := by
  intro settings order
  have ht : mixedTree.WellFormed := ⟨by decide, by decide +kernel⟩
  have hroot : mixedTree.resolve "src" = .ok ["src"] := rfl
  have hdirectory : mixedTree.isDirectory ["src"] = true := by decide
  -- The files of the tree are listed in order, so sorting leaves the sources as they are.
  have hsources : mixedTree.sourcesBelow ["src"] = [["a", "B.sol"], ["a-b.sol"], ["z.sol"]] :=
    List.mergeSort_of_pairwise (l := [["a", "B.sol"], ["a-b.sol"], ["z.sol"]]) (by decide +kernel)
  have hfiles : filesOf mixedTree "src" = ["src/a/B.sol", "src/a-b.sol", "src/z.sol"] := by
    rw [filesOf_eq_collect hroot hdirectory, FileTree.collect_eq hroot, hsources]
    decide +kernel
  have horder : order.Perm (filesOf mixedTree "src") := by
    rw [hfiles]
    exact List.reverse_perm ["src/a/B.sol", "src/a-b.sol", "src/z.sol"]
  refine ⟨hfiles, ?_, ht, hroot, hdirectory, horder,
    analyse_any_order settings ht hroot hdirectory horder⟩
  rw [hfiles]
  decide +kernel

end Settings

end SolidityLint
