import Mathlib.Data.List.DropRight
import Mathlib.Data.List.Lex
import SolidityLint.Path

set_option autoImplicit false

/-! # Names below a path

A path is a text, and two texts may stand for the same place: what stands idle at its end does not
count. This file says what putting a name below a path does to its segments (`Path.IsChild`) and to
its components (`Path.IsChild.components_eq`), takes a path with a file name apart into a directory
and a name (`Path.LiesIn`), and says that the tree of a file goes next to the file
(`Path.LiesIn.segments_dumpPath`, `Path.isChild_dumpPath`). It also says how a name and its stem
determine each other, and orders paths by their components (`Path.Before`). -/

namespace SolidityLint.Path

/-! ## Segments -/

/-- A name that a directory can give to one of its entries. -/
structure IsName (name : String) : Prop where
  ne_empty : name ≠ ""
  ne_current : name ≠ "."
  ne_parent : name ≠ ".."
  no_slash : '/' ∉ name.toList

instance (name : String) : Decidable (IsName name) :=
  decidable_of_iff (name ≠ "" ∧ name ≠ "." ∧ name ≠ ".." ∧ '/' ∉ name.toList)
    ⟨fun ⟨h₁, h₂, h₃, h₄⟩ => ⟨h₁, h₂, h₃, h₄⟩, fun ⟨h₁, h₂, h₃, h₄⟩ => ⟨h₁, h₂, h₃, h₄⟩⟩

theorem IsName.not_isIdle {name : String} (h : IsName name) : isIdle name = false := by
  simp [isIdle, h.ne_empty, h.ne_current]

theorem segments_append_slash (before after : String) :
    segments (before ++ "/" ++ after) = segments before ++ segments after := by
  have htext : (before ++ "/" ++ after).toList = before.toList ++ '/' :: after.toList := by
    simp [String.toList_append]
  rw [segments, htext, Text.pieces_append_mark, List.map_append]
  rfl

theorem segments_of_no_slash {name : String} (h : '/' ∉ name.toList) : segments name = [name] := by
  rw [segments, Text.pieces_of_notMem _ h, List.map_singleton, String.ofList_toList]

theorem segments_ne_nil (path : String) : segments path ≠ [] := by
  simp [segments, Text.pieces_ne_nil]

theorem no_slash_of_mem_segments {path segment : String} (h : segment ∈ segments path) :
    '/' ∉ segment.toList := by
  obtain ⟨piece, hpiece, rfl⟩ := List.mem_map.1 h
  rw [String.toList_ofList]
  exact Text.notMem_of_mem_pieces _ hpiece

/-- A path is one segment, or a slash ends its first segment. -/
theorem segments_cases_first (path : String) :
    ('/' ∉ path.toList ∧ segments path = [path])
      ∨ ∃ first rest, path = first ++ "/" ++ rest ∧ '/' ∉ first.toList
        ∧ segments path = first :: segments rest := by
  by_cases hslash : '/' ∈ path.toList
  · right
    obtain ⟨first, rest, hcut, hfirst⟩ := List.eq_append_cons_of_mem hslash
    have hpath : path = String.ofList first ++ "/" ++ String.ofList rest := by
      rw [← String.toList_inj]
      simp [hcut]
    have hclean : '/' ∉ (String.ofList first).toList := by simpa using hfirst
    refine ⟨String.ofList first, String.ofList rest, hpath, hclean, ?_⟩
    rw [hpath, segments_append_slash, segments_of_no_slash hclean, List.singleton_append]
  · exact .inl ⟨hslash, segments_of_no_slash hslash⟩

theorem segments_of_slash_at_end {path : String} (h : path.toList.getLast? = some '/') :
    ∃ start, path = start ++ "/" ∧ segments path = segments start ++ [""] := by
  obtain ⟨start, hstart⟩ := List.getLast?_eq_some_iff.1 h
  have hpath : path = String.ofList start ++ "/" := by
    rw [← String.toList_inj]
    simp [hstart]
  have hcut := segments_append_slash (String.ofList start) ""
  rw [String.append_empty, ← hpath] at hcut
  exact ⟨String.ofList start, hpath, hcut⟩

theorem segments_eq_empty_iff {path : String} : segments path = [""] ↔ path = "" := by
  constructor
  · intro h
    obtain ⟨-, hpath⟩ | ⟨first, rest, -, -, hpath⟩ := segments_cases_first path
    · rw [hpath, List.singleton_inj] at h
      exact h
    · rw [hpath, List.cons_eq_cons] at h
      exact absurd h.2 (segments_ne_nil rest)
  · rintro rfl
    exact segments_of_no_slash (by simp)

/-- The first segment of a path is empty if the path starts with a slash. -/
theorem startsWith_slash_iff {path : String} (h : path ≠ "") :
    Text.startsWith '/' path = true ↔ (segments path).head? = some "" := by
  obtain ⟨hslash, hpath⟩ | ⟨first, rest, rfl, hslash, hpath⟩ := segments_cases_first path
  · have hstart : path.toList.head? ≠ some '/' := fun hhead => hslash (List.mem_of_head? hhead)
    simp [Text.startsWith, hpath, h, hstart]
  · rw [hpath, List.head?_cons, Option.some_inj]
    by_cases hfirst : first = ""
    · simp [hfirst, Text.startsWith]
    · have hchars : first.toList ≠ [] := fun hnil => hfirst (String.toList_eq_nil_iff.1 hnil)
      have hstart : first.toList.head? ≠ some '/' := fun hhead =>
        hslash (List.mem_of_head? hhead)
      simp [Text.startsWith, hfirst, List.head?_append_of_ne_nil _ hchars, hstart]

/-! ## One name more -/

/-- `child` is `path` with this name in place of what stands idle at its end. -/
def IsChild (path name child : String) : Prop :=
  ∃ base idle, segments path = base ++ idle ∧ base ≠ [] ∧ (∀ s ∈ idle, isIdle s = true)
    ∧ segments child = base ++ [name]

theorem IsChild.ne_empty {path name child : String} (h : IsChild path name child) :
    child ≠ "" := by
  obtain ⟨base, idle, -, hbase, -, hchild⟩ := h
  rintro rfl
  have hlength := congrArg List.length (hchild.symm.trans (segments_eq_empty_iff.2 rfl))
  exact hbase (by simpa using hlength)

theorem join_eq_append_slash {path name : String} (hpath : path ≠ "")
    (hend : path.toList.getLast? ≠ some '/') : join path name = path ++ "/" ++ name := by
  simp [join, hpath, hend]

theorem isChild_join {path name : String} (hpath : path ≠ "") (hname : IsName name) :
    IsChild path name (join path name) := by
  by_cases hend : path.toList.getLast? = some '/'
  · -- The slash at the end of the path is followed by an empty segment, which the name replaces.
    obtain ⟨start, rfl, hsegments⟩ := segments_of_slash_at_end hend
    refine ⟨segments start, [""], hsegments, segments_ne_nil _, by simp [isIdle], ?_⟩
    rw [join, if_pos (by simp), segments_append_slash, segments_of_no_slash hname.no_slash]
  · refine ⟨segments path, [], by simp, segments_ne_nil _, by simp, ?_⟩
    rw [join_eq_append_slash hpath hend, segments_append_slash,
      segments_of_no_slash hname.no_slash]

theorem filter_not_isIdle_of_idle {idle : List String} (hidle : ∀ s ∈ idle, isIdle s = true) :
    idle.filter (fun s => !isIdle s) = [] := by
  rw [List.filter_eq_nil_iff]
  intro s hs
  simp [hidle s hs]

/-- A path keeps its components, and the name comes after them. -/
theorem IsChild.components_eq {path name child : String} (h : IsChild path name child)
    (hpath : path ≠ "") (hname : IsName name) :
    components child = components path ++ [.name name] := by
  obtain ⟨base, idle, hsegments, hbase, hidle, hchild⟩ := h
  obtain ⟨first, later, rfl⟩ := List.exists_cons_of_ne_nil hbase
  have hfirst : Component.ofFirst? first (later ++ idle).isEmpty
      = Component.ofFirst? first false := by
    by_cases hempty : later ++ idle = []
    · -- A first segment that stands alone is not empty, since the path is not.
      have hne : first ≠ "" := by
        rintro rfl
        rw [List.cons_append, hempty, segments_eq_empty_iff] at hsegments
        exact hpath hsegments
      simp [Component.ofFirst?, hne]
    · rw [List.isEmpty_eq_false_iff.2 hempty]
  have hdropped := filter_not_isIdle_of_idle hidle
  have hmore : (later ++ [name]).isEmpty = false := by simp
  unfold components
  rw [hsegments, hchild]
  simp [hmore, hfirst, hdropped, hname.not_isIdle, Component.ofSegment, hname.ne_parent]

theorem components_foldl_join {root : String} (hroot : root ≠ "") {names : List String}
    (hnames : ∀ name ∈ names, IsName name) :
    components (names.foldl join root) = components root ++ names.map .name := by
  induction names generalizing root with
  | nil => simp
  | cons name rest ih =>
    have hchild := isChild_join hroot (hnames name (by simp))
    rw [List.foldl_cons, ih hchild.ne_empty fun n hn => hnames n (List.mem_cons_of_mem _ hn),
      hchild.components_eq hroot (hnames name (by simp))]
    simp

/-! ## Stems and extensions -/

theorem takeWhile_reverse_of_no_stop {chars : List Char} (h : '.' ∉ chars) :
    chars.reverse.takeWhile (· != '.') = chars.reverse := by
  rw [List.takeWhile_eq_self_iff]
  intro c hc
  have hne : c ≠ '.' := fun hstop => h (hstop ▸ List.mem_reverse.1 hc)
  simpa using hne

theorem splitName_of_no_stop {name : String} (h : '.' ∉ name.toList) :
    splitName name = (name, none) := by
  simp [splitName, takeWhile_reverse_of_no_stop h]

/-- A name is cut at its last full stop, unless that stands at the start. -/
theorem splitName_of_last_stop {name : String} {before after : List Char}
    (hname : name.toList = before ++ '.' :: after) (hafter : '.' ∉ after) :
    splitName name = if before = [] then (name, none)
      else (String.ofList before, some (String.ofList after)) := by
  have hextension : ((before ++ '.' :: after).reverse.takeWhile (· != '.')).reverse = after := by
    rw [List.reverse_append, List.reverse_cons, List.append_assoc, List.takeWhile_append,
      takeWhile_reverse_of_no_stop hafter]
    simp
  have hstem : (before ++ '.' :: after).take ((before ++ '.' :: after).length - after.length - 1)
      = before := by
    have hlength : (before ++ '.' :: after).length - after.length - 1 = before.length := by
      rw [List.length_append, List.length_cons]
      omega
    rw [hlength, List.take_left]
  have hshorter : after.length ≠ (before ++ '.' :: after).length := by
    rw [List.length_append, List.length_cons]
    omega
  simp only [splitName, hname, hextension, hstem, hshorter]
  simp

/-- A name with an extension is its stem, a full stop and the extension. -/
theorem eq_of_extension? {name extension : String} (h : extension? name = some extension) :
    name = stem name ++ "." ++ extension := by
  unfold extension? at h
  unfold stem
  by_cases hstop : '.' ∈ name.toList
  · -- The last full stop is the first from the other end.
    obtain ⟨after, before, hcut, hafter⟩ := List.eq_append_cons_of_mem (List.mem_reverse.2 hstop)
    have hname : name.toList = before.reverse ++ '.' :: after.reverse := by
      rw [← List.reverse_inj]
      simp [hcut]
    have hsplit := splitName_of_last_stop hname (by simpa using hafter)
    rw [hsplit] at h ⊢
    split_ifs at h ⊢ with hbefore
    rw [← String.toList_inj, ← Option.some_inj.1 h, hname]
    simp
  · rw [splitName_of_no_stop hstop] at h
    cases h

/-- The name of the tree of a file. -/
def dumpName (name : String) : String :=
  stem name ++ "AST.json"

theorem extension?_dumpName (name : String) : extension? (dumpName name) = some "json" := by
  have hname : (dumpName name).toList
      = ((stem name).toList ++ "AST".toList) ++ '.' :: "json".toList := by
    simp [dumpName]
  rw [extension?, splitName_of_last_stop hname (by decide), if_neg (by simp)]
  rfl

theorem no_slash_stem {name : String} (h : '/' ∉ name.toList) : '/' ∉ (stem name).toList := by
  unfold stem splitName
  dsimp only
  split
  · exact h
  · rw [String.toList_ofList]
    exact fun hmem => h (List.mem_of_mem_take hmem)

theorem isName_dumpName {name : String} (h : IsName name) : IsName (dumpName name) := by
  have hne (other : String) (hother : extension? other ≠ some "json") : dumpName name ≠ other :=
    fun heq => hother (heq ▸ extension?_dumpName name)
  refine ⟨hne _ (by decide), hne _ (by decide), hne _ (by decide), ?_⟩
  rw [dumpName, String.toList_append, List.mem_append, not_or]
  exact ⟨no_slash_stem h.no_slash, by decide⟩

/-- Names with one extension whose trees have one name are one name. -/
theorem eq_of_dumpName_eq {name other extension : String} (hname : extension? name = some extension)
    (hother : extension? other = some extension) (h : dumpName name = dumpName other) :
    name = other := by
  have hstem : stem name = stem other := by
    rw [dumpName, dumpName, ← String.toList_inj, String.toList_append, String.toList_append,
      List.append_left_inj, String.toList_inj] at h
    exact h
  rw [eq_of_extension? hname, eq_of_extension? hother, hstem]

/-! ## Trimmed segments -/

theorem segments_intercalate {segs : List String} (hne : segs ≠ [])
    (hslash : ∀ s ∈ segs, '/' ∉ s.toList) : segments (String.intercalate "/" segs) = segs := by
  induction segs with
  | nil => exact absurd rfl hne
  | cons first rest ih =>
    have hfirst : segments first = [first] := segments_of_no_slash (hslash first (by simp))
    by_cases hrest : rest = []
    · rw [hrest, String.intercalate_singleton, hfirst]
    · rw [String.intercalate_cons_of_ne_nil hrest, segments_append_slash, hfirst,
        ih hrest fun s hs => hslash s (List.mem_cons_of_mem _ hs), List.singleton_append]

/-- What trimming drops stands idle. -/
theorem exists_eq_trimmed_append (segs : List String) :
    ∃ idle, segs = trimmed segs ++ idle ∧ ∀ s ∈ idle, isIdle s = true := by
  cases segs with
  | nil => exact ⟨[], rfl, by simp⟩
  | cons first later =>
    refine ⟨later.rtakeWhile isIdle, ?_, fun s hs => List.mem_rtakeWhile_imp hs⟩
    show first :: later = first :: (later.rdropWhile isIdle ++ later.rtakeWhile isIdle)
    rw [List.rdropWhile, List.rtakeWhile, ← List.reverse_append, List.takeWhile_append_dropWhile,
      List.reverse_reverse]

/-- After the first one, the last segment of a trimmed path stands for something. -/
theorem trimmed_ne_append_empty (segs : List String) {base : List String} (hbase : base ≠ []) :
    trimmed segs ≠ base ++ [""] := by
  intro h
  obtain ⟨head, rest, rfl⟩ := List.exists_cons_of_ne_nil hbase
  cases segs with
  | nil => cases h
  | cons first later =>
    have hlater : later.rdropWhile isIdle = rest ++ [""] := (List.cons_eq_cons.1 h).2
    have hlast := List.rdropWhile_last_not isIdle later (by simp [hlater])
    simp [hlater, isIdle] at hlast

theorem trimmed_trimmed (segs : List String) : trimmed (trimmed segs) = trimmed segs := by
  cases segs with
  | nil => rfl
  | cons first later => exact congrArg (first :: ·) (List.rdropWhile_idempotent isIdle later)

theorem trimmed_ne_nil {segs : List String} (h : segs ≠ []) : trimmed segs ≠ [] := by
  obtain ⟨first, later, rfl⟩ := List.exists_cons_of_ne_nil h
  simp [trimmed]

/-- A name below the text of trimmed segments. -/
theorem segments_join_textOf {segs : List String} (hne : segs ≠ [])
    (hslash : ∀ s ∈ trimmed segs, '/' ∉ s.toList) {name : String} (hname : IsName name) :
    segments (join (textOf (trimmed segs)) name) = trimmed segs ++ [name] := by
  have hsegment : segments name = [name] := segments_of_no_slash hname.no_slash
  unfold textOf
  by_cases hroot : trimmed segs = [""]
  · have hjoin : join "/" name = "" ++ "/" ++ name := by simp [join]
    rw [if_pos hroot, hroot, hjoin, segments_append_slash, hsegment, segments_eq_empty_iff.2 rfl]
  · have hsegments := segments_intercalate (trimmed_ne_nil hne) hslash
    have hpath : String.intercalate "/" (trimmed segs) ≠ "" := fun hempty =>
      hroot (hsegments.symm.trans (segments_eq_empty_iff.2 hempty))
    have hend : (String.intercalate "/" (trimmed segs)).toList.getLast? ≠ some '/' := by
      intro hslashed
      obtain ⟨start, -, hstart⟩ := segments_of_slash_at_end hslashed
      exact trimmed_ne_append_empty segs (segments_ne_nil start) (hsegments.symm.trans hstart)
    rw [if_neg hroot, join_eq_append_slash hpath hend, segments_append_slash, hsegments, hsegment]

/-! ## A directory and a name in it -/

/-- The path of the file `name` in the directory that these segments lead to, with nothing after it
    that counts. A path of the name alone has no segments before it. -/
structure LiesIn (path : String) (directory : List String) (name : String) : Prop where
  isName : IsName name
  segments_eq : ∃ idle, segments path = directory ++ name :: idle ∧ ∀ s ∈ idle, isIdle s = true

theorem trimmed_append_name {name : String} (hname : IsName name) (directory : List String)
    {idle : List String} (hidle : ∀ s ∈ idle, isIdle s = true) :
    trimmed (directory ++ name :: idle) = directory ++ [name] := by
  have hrest : ∀ s ∈ idle.reverse, isIdle s = true := fun s hs => hidle s (List.mem_reverse.1 hs)
  cases directory with
  | nil => simp [trimmed, List.dropWhile_eq_nil_iff.2 hrest]
  | cons first later =>
    simp [trimmed, List.dropWhile_append_of_pos hrest, hname.not_isIdle]

theorem LiesIn.trimmed_segments {path name : String} {directory : List String}
    (h : LiesIn path directory name) : trimmed (segments path) = directory ++ [name] := by
  obtain ⟨idle, hsegments, hidle⟩ := h.segments_eq
  rw [hsegments, trimmed_append_name h.isName directory hidle]

theorem LiesIn.no_slash {path name : String} {directory : List String}
    (h : LiesIn path directory name) : ∀ s ∈ trimmed directory, '/' ∉ s.toList := by
  intro s hs
  obtain ⟨idle, hsegments, -⟩ := h.segments_eq
  obtain ⟨dropped, hdirectory, -⟩ := exists_eq_trimmed_append directory
  have hmem : s ∈ segments path := by
    rw [hsegments, hdirectory]
    simp [hs]
  exact no_slash_of_mem_segments hmem

/-- A path has a file name if it leads to that name in some directory. -/
theorem fileName?_eq_some_iff {path name : String} :
    fileName? path = some name ↔ ∃ directory, LiesIn path directory name := by
  constructor
  · intro h
    unfold fileName? at h
    split at h
    · rename_i s hlast
      split_ifs at h with hcounts
      obtain rfl : s = name := Option.some_inj.1 h
      obtain ⟨directory, htrimmed⟩ := List.getLast?_eq_some_iff.1 hlast
      obtain ⟨idle, hsegments, hidle⟩ := exists_eq_trimmed_append (segments path)
      rw [htrimmed, List.append_assoc, List.singleton_append] at hsegments
      have hmem : s ∈ segments path := by simp [hsegments]
      have hslash : '/' ∉ s.toList := no_slash_of_mem_segments hmem
      simp only [isIdle, Bool.or_eq_true, decide_eq_true_eq, not_or] at hcounts
      exact ⟨directory, ⟨hcounts.1.1, hcounts.1.2, hcounts.2, hslash⟩, idle, hsegments, hidle⟩
    · cases h
  · rintro ⟨directory, h⟩
    simp [fileName?, h.trimmed_segments, h.isName.not_isIdle, h.isName.ne_parent]

theorem LiesIn.parent_eq {path name : String} {directory : List String}
    (h : LiesIn path directory name) :
    parent path = if directory = [] then "" else textOf (trimmed directory) := by
  rw [parent, h.trimmed_segments, List.dropLast_concat]
  cases directory with
  | nil => rfl
  | cons first later => simp

theorem segments_join_empty {name : String} (hname : IsName name) :
    segments (join "" name) = [name] := by
  have hjoin : join "" name = name := by simp [join]
  rw [hjoin, segments_of_no_slash hname.no_slash]

/-! ## The path of a tree -/

/-- The tree of a file lies in its directory, under a name made from the stem. -/
theorem LiesIn.segments_dumpPath {path name : String} {directory : List String}
    (h : LiesIn path directory name) :
    segments (dumpPath path) = trimmed directory ++ [dumpName name] := by
  have hname : IsName (dumpName name) := isName_dumpName h.isName
  have hpath : dumpPath path = join (parent path) (dumpName name) := by
    rw [dumpPath, fileName?_eq_some_iff.2 ⟨directory, h⟩]
    rfl
  rw [hpath, h.parent_eq]
  by_cases hdirectory : directory = []
  · rw [if_pos hdirectory, hdirectory, segments_join_empty hname]
    rfl
  · rw [if_neg hdirectory, segments_join_textOf hdirectory h.no_slash hname]

/-- **The tree of a file goes next to it.** -/
theorem isChild_dumpPath {path name : String} (hpath : path ≠ "") (hname : IsName name) :
    IsChild path (dumpName name) (dumpPath (join path name)) := by
  obtain ⟨base, idle, hsegments, hbase, hidle, hchild⟩ := isChild_join hpath hname
  obtain ⟨more, hbasesplit, hmore⟩ := exists_eq_trimmed_append base
  have hfile : LiesIn (join path name) base name := ⟨hname, [], hchild, by simp⟩
  refine ⟨trimmed base, more ++ idle, ?_, trimmed_ne_nil hbase, ?_, hfile.segments_dumpPath⟩
  · rw [hsegments, ← List.append_assoc, ← hbasesplit]
  · intro s hs
    exact (List.mem_append.1 hs).elim (hmore s) (hidle s)

/-! ## The order of paths -/

/-- The root comes first, then a leading `.`, then `..`, then names. -/
def Component.rank : Component → Nat
  | root => 0
  | current => 1
  | parent => 2
  | name _ => 3

/-- Names are compared as texts, character by character. -/
def Component.Lt : Component → Component → Prop
  | name a, name b => a < b
  | a, b => a.rank < b.rank

/-- Paths are compared component by component, from the first on. -/
def Before (path other : String) : Prop :=
  List.Lex Component.Lt (components path) (components other)

theorem Component.Lt.asymm {a b : Component} (h : a.Lt b) : ¬b.Lt a := by
  cases a with
  | name x =>
    cases b with
    | name y =>
      have hlt : x < y := h
      exact String.lt_asymm hlt
    | _ => simp [Component.Lt, Component.rank] at h
  | _ => cases b <;> simp_all [Component.Lt, Component.rank]

instance : Std.Asymm Component.Lt := ⟨fun _ _ => Component.Lt.asymm⟩

/-- Of two paths at most one comes before the other, and no path before itself. -/
theorem Before.asymm {path other : String} (h : Before path other) : ¬Before other path :=
  Std.Asymm.asymm (r := List.Lex Component.Lt) _ _ h

end SolidityLint.Path
