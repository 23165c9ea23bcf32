import SolidityLint.Proofs.Paths

set_option autoImplicit false

/-! # The paths of syntax trees

If the trees of two files had one path, one would overwrite the other. The file name of a path ends
its components (`Path.LiesIn.components_eq`), and the tree of a file has the same components up to
there (`Path.LiesIn.components_dumpPath`). So no two sources have their trees at the same path, and
no tree is itself a source (`Path.trees_never_collide`). -/

namespace SolidityLint.Path

/-! ## Components -/

/-- The components of a directory that a name follows. -/
def directoryComponents : List String → List Component
  | [] => []
  | first :: later =>
      (Component.ofFirst? first false).toList
        ++ (later.filter fun s => !isIdle s).map .ofSegment

theorem LiesIn.components_eq {path name : String} {directory : List String}
    (h : LiesIn path directory name) :
    components path = directoryComponents directory ++ [.name name] := by
  obtain ⟨idle, hsegments, hidle⟩ := h.segments_eq
  have hname := h.isName
  have hdropped := filter_not_isIdle_of_idle hidle
  unfold components
  rw [hsegments]
  cases directory with
  | nil =>
    simp [directoryComponents, hdropped, Component.ofFirst?, Component.ofSegment, hname.ne_empty,
      hname.ne_current, hname.ne_parent]
  | cons first later =>
    have hmore : (later ++ name :: idle).isEmpty = false := by simp
    simp [directoryComponents, hmore, hdropped, hname.not_isIdle, Component.ofSegment,
      hname.ne_parent]

/-- What stands idle at the end of a directory does not count. -/
theorem directoryComponents_trimmed (directory : List String) :
    directoryComponents (trimmed directory) = directoryComponents directory := by
  cases directory with
  | nil => rfl
  | cons first later =>
    obtain ⟨idle, hsplit, hidle⟩ := exists_eq_trimmed_append (first :: later)
    obtain ⟨kept, hkept⟩ : ∃ kept, trimmed (first :: later) = first :: kept := ⟨_, rfl⟩
    rw [hkept, List.cons_append, List.cons_eq_cons] at hsplit
    rw [hkept, hsplit.2]
    simp [directoryComponents, filter_not_isIdle_of_idle hidle]

/-! ## The tree of a file -/

theorem LiesIn.tree {path name : String} {directory : List String}
    (h : LiesIn path directory name) :
    LiesIn (dumpPath path) (trimmed directory) (dumpName name) :=
  ⟨isName_dumpName h.isName, [], h.segments_dumpPath, by simp⟩

theorem LiesIn.parent_dumpPath {path name : String} {directory : List String}
    (h : LiesIn path directory name) : parent (dumpPath path) = parent path := by
  rw [h.tree.parent_eq, h.parent_eq, trimmed_trimmed]
  by_cases hdirectory : directory = []
  · simp [hdirectory, trimmed]
  · rw [if_neg hdirectory, if_neg (trimmed_ne_nil hdirectory)]

theorem LiesIn.components_dumpPath {path name : String} {directory : List String}
    (h : LiesIn path directory name) :
    components (dumpPath path) = directoryComponents directory ++ [.name (dumpName name)] := by
  rw [h.tree.components_eq, directoryComponents_trimmed]

/-- A name is never that of its own tree: where a full stop ends the stem, the tree goes on with
    `AST`. -/
theorem dumpName_ne (name : String) : dumpName name ≠ name := by
  intro h
  have hextension : extension? name = some "json" := by
    rw [← extension?_dumpName name, h]
  have hspelling := eq_of_extension? hextension
  have hlength := congrArg (fun s : String => s.toList.length) (h.trans hspelling)
  simp [dumpName] at hlength

/-! ## Sources and trees -/

/-- The extension of the file name of a path. -/
def fileExtension? (path : String) : Option String :=
  (fileName? path).bind extension?

theorem exists_liesIn_of_fileExtension? {path extension : String}
    (h : fileExtension? path = some extension) :
    ∃ directory name, LiesIn path directory name ∧ extension? name = some extension := by
  obtain ⟨name, hname, hextension⟩ := Option.bind_eq_some_iff.1 h
  obtain ⟨directory, hpath⟩ := fileName?_eq_some_iff.1 hname
  exact ⟨directory, name, hpath, hextension⟩

/-- A path without a file name gets one below it. -/
theorem exists_liesIn_join {name : String} (hname : IsName name) (path : String) :
    ∃ directory, LiesIn (join path name) directory name := by
  by_cases hpath : path = ""
  · rw [hpath]
    exact ⟨[], hname, [], segments_join_empty hname, by simp⟩
  · obtain ⟨directory, -, -, -, -, hchild⟩ := isChild_join hpath hname
    exact ⟨directory, hname, [], hchild, by simp⟩

/-- Whatever the path, its tree is a `json` file. -/
theorem fileExtension?_dumpPath (path : String) : fileExtension? (dumpPath path) = some "json" := by
  have hjson : ∃ name, fileName? (dumpPath path) = some name ∧ extension? name = some "json" := by
    cases hfile : fileName? path with
    | none =>
      have hpath : dumpPath path = join path "AST.json" := by rw [dumpPath, hfile]
      rw [hpath]
      have hname : IsName "AST.json" := by decide
      exact ⟨"AST.json", fileName?_eq_some_iff.2 (exists_liesIn_join hname path), by decide⟩
    | some name =>
      obtain ⟨directory, h⟩ := fileName?_eq_some_iff.1 hfile
      exact ⟨dumpName name, fileName?_eq_some_iff.2 ⟨_, h.tree⟩, extension?_dumpName name⟩
  obtain ⟨name, hname, hextension⟩ := hjson
  rw [fileExtension?, hname, Option.bind_some, hextension]

/-- Files of one extension whose trees are at the same path are at the same path. -/
theorem components_eq_of_dumpPath {path other extension : String}
    (hpath : fileExtension? path = some extension) (hother : fileExtension? other = some extension)
    (h : components (dumpPath path) = components (dumpPath other)) :
    components path = components other := by
  obtain ⟨directory, name, hliesIn, hname⟩ := exists_liesIn_of_fileExtension? hpath
  obtain ⟨otherDirectory, otherName, hotherIn, hotherName⟩ :=
    exists_liesIn_of_fileExtension? hother
  rw [hliesIn.components_dumpPath, hotherIn.components_dumpPath] at h
  obtain ⟨hdirectory, hlast⟩ := List.append_inj' h (by simp)
  have hnames : dumpName name = dumpName otherName := by simpa using hlast
  obtain rfl := eq_of_dumpName_eq hname hotherName hnames
  rw [hliesIn.components_eq, hotherIn.components_eq, hdirectory]

/-- **Trees never collide.** The tree of a file has the parent of the file, a name made from the
    stem, and never the path of the file itself. Sources with trees at the same path are at the same
    path, and no tree is a source. -/
theorem trees_never_collide :
    (∀ path name, fileName? path = some name →
        parent (dumpPath path) = parent path
        ∧ fileName? (dumpPath path) = some (stem name ++ "AST.json")
        ∧ components (dumpPath path)
          = (components path).dropLast ++ [.name (stem name ++ "AST.json")]
        ∧ components (dumpPath path) ≠ components path)
      ∧ (∀ path other, fileExtension? path = some "sol" → fileExtension? other = some "sol" →
        components (dumpPath path) = components (dumpPath other) →
        components path = components other)
      ∧ ∀ path, fileExtension? (dumpPath path) ≠ some "sol" := by
  refine ⟨?_, fun path other => components_eq_of_dumpPath, ?_⟩
  · intro path name hname
    obtain ⟨directory, h⟩ := fileName?_eq_some_iff.1 hname
    have hfile : fileName? (dumpPath path) = some (dumpName name) :=
      fileName?_eq_some_iff.2 ⟨_, h.tree⟩
    have hcomponents : components (dumpPath path)
        = (components path).dropLast ++ [.name (dumpName name)] := by
      rw [h.components_dumpPath, h.components_eq, List.dropLast_concat]
    refine ⟨h.parent_dumpPath, hfile, hcomponents, ?_⟩
    rw [h.components_dumpPath, h.components_eq]
    simpa using dumpName_ne name
  · intro path
    simp [fileExtension?_dumpPath]

/-- One source under two spellings, a second full stop in its name: its tree is next to it, and the
    spellings are of one path because those of the tree are. -/
theorem trees_never_collide_twoSpellings :
    fileName? "lib//Vault.v2.sol/." = some "Vault.v2.sol"
      ∧ parent (dumpPath "lib//Vault.v2.sol/.") = "lib"
      ∧ fileName? (dumpPath "lib//Vault.v2.sol/.") = some "Vault.v2AST.json"
      ∧ components (dumpPath "lib//Vault.v2.sol/.") ≠ components "lib//Vault.v2.sol/."
      ∧ fileExtension? "lib//Vault.v2.sol/." = some "sol"
      ∧ fileExtension? "lib/./Vault.v2.sol" = some "sol"
      ∧ components (dumpPath "lib//Vault.v2.sol/.") = components (dumpPath "lib/./Vault.v2.sol")
      ∧ components "lib//Vault.v2.sol/." = components "lib/./Vault.v2.sol"
      ∧ fileExtension? (dumpPath "lib//Vault.v2.sol/.") ≠ some "sol" := by
  have hname : fileName? "lib//Vault.v2.sol/." = some "Vault.v2.sol" := by decide +kernel
  have hparent : parent "lib//Vault.v2.sol/." = "lib" := by decide +kernel
  have hpath : fileExtension? "lib//Vault.v2.sol/." = some "sol" := by decide +kernel
  have hother : fileExtension? "lib/./Vault.v2.sol" = some "sol" := by decide +kernel
  have htrees : components (dumpPath "lib//Vault.v2.sol/.")
      = components (dumpPath "lib/./Vault.v2.sol") := by decide +kernel
  have hstem : stem "Vault.v2.sol" ++ "AST.json" = "Vault.v2AST.json" := by decide +kernel
  have hfile := trees_never_collide.1 "lib//Vault.v2.sol/." "Vault.v2.sol" hname
  rw [hparent, hstem] at hfile
  exact ⟨hname, hfile.1, hfile.2.1, hfile.2.2.2, hpath, hother, htrees,
    trees_never_collide.2.1 _ _ hpath hother htrees, trees_never_collide.2.2 _⟩

end SolidityLint.Path
