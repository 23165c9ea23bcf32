import Mathlib.Data.List.Lex
import Mathlib.Data.List.Nodup
import Mathlib.Data.String.Basic
import SolidityLint.FileTree
import SolidityLint.Proofs.Paths

set_option autoImplicit false

/-! # Files and the paths to them

What a file tree answers after a file was put into it, where the paths below a directory lead, and
which sources a directory lists.

A path below a directory leads where the names that were joined to it say
(`FileTree.resolve_foldl_join`). So the paths that are collected below a directory lead to its
sources, each to one of its own (`FileTree.existsUnique_mem_collect`), they come in the order of
their components (`FileTree.collect_pairwise_before`), and the tree of a source goes next to the
source (`FileTree.LeadsToSource`). -/

namespace SolidityLint.FileTree

open SolidityLint.Path

/-! ## Contents -/

/-- The names of the files. -/
def fileNames (t : FileTree) : List (List String) :=
  t.files.map Prod.fst

/-- What trees are made of: each file is there once, under names that directories can give. -/
structure WellFormed (t : FileTree) : Prop where
  nodup : t.fileNames.Nodup
  isName : ∀ names ∈ t.fileNames, ∀ name ∈ names, IsName name

theorem isFile_iff {t : FileTree} {names : List String} :
    t.isFile names = true ↔ names ∈ t.fileNames := by
  simp [isFile, fileNames]

theorem lookup_cons_eq_ite (names first : List String) (content : ByteArray)
    (rest : List (List String × ByteArray)) :
    ((first, content) :: rest).lookup names
      = if names = first then some content else rest.lookup names := by
  rw [List.lookup_cons]
  by_cases h : names = first
  · simp [h]
  · simp [h, beq_false_of_ne h]

theorem isSome_lookup_iff {t : FileTree} {names : List String} :
    (t.files.lookup names).isSome = true ↔ names ∈ t.fileNames := by
  unfold fileNames
  induction t.files with
  | nil => simp
  | cons f rest ih =>
    rw [lookup_cons_eq_ite, List.map_cons, List.mem_cons, ← ih]
    split
    · next h => simp [h]
    · next h => simp [h]

section Put

variable (t : FileTree) (names : List String) (content : ByteArray)

@[simp] theorem put_workingDirectory :
    (t.put names content).workingDirectory = t.workingDirectory := by
  unfold put
  split <;> rfl

@[simp] theorem put_directories : (t.put names content).directories = t.directories := by
  unfold put
  split <;> rfl

theorem mem_fileNames_put {other : List String} :
    other ∈ (t.put names content).fileNames ↔ other ∈ t.fileNames ∨ other = names := by
  unfold put
  split
  · next hfile =>
    have hkept : (fun f : List String × ByteArray =>
        (if f.1 == names then (names, content) else f).1) = Prod.fst := by
      funext f
      split
      · next h => exact (eq_of_beq h).symm
      · rfl
    have hnames : (t.files.map fun f => if f.1 == names then (names, content) else f).map Prod.fst
        = t.fileNames := by
      rw [List.map_map]
      exact congrArg (List.map · _) hkept
    show other ∈ List.map Prod.fst _ ↔ _
    rw [hnames]
    refine ⟨.inl, ?_⟩
    rintro (h | rfl)
    · exact h
    · exact isFile_iff.1 hfile
  · simp [fileNames]

/-- Putting into a file that is there. -/
theorem lookup_replaced (files : List (List String × ByteArray)) (other : List String) :
    (files.map fun f => if f.1 == names then (names, content) else f).lookup other
      = if other = names then (files.lookup names).map fun _ => content
        else files.lookup other := by
  induction files with
  | nil => simp
  | cons f rest ih =>
    obtain ⟨first, old⟩ := f
    rw [List.map_cons]
    by_cases hfirst : first = names
    · rw [if_pos (beq_iff_eq.2 hfirst), lookup_cons_eq_ite, ih, lookup_cons_eq_ite,
        lookup_cons_eq_ite, hfirst]
      split
      · simp
      · rfl
    · rw [if_neg (mt beq_iff_eq.1 hfirst), lookup_cons_eq_ite, ih, lookup_cons_eq_ite,
        lookup_cons_eq_ite, if_neg (Ne.symm hfirst)]
      by_cases hother : other = first
      · simp [hother, hfirst]
      · simp [hother]

/-- A file has what was put into it, and the others have what they had. -/
theorem lookup_put (other : List String) :
    (t.put names content).files.lookup other
      = if other = names then some content else t.files.lookup other := by
  unfold put
  split
  · next hfile =>
    have hthere : (t.files.lookup names).isSome = true := by
      rw [isSome_lookup_iff]
      exact isFile_iff.1 hfile
    obtain ⟨old, hold⟩ := Option.isSome_iff_exists.1 hthere
    rw [lookup_replaced, hold]
    rfl
  · next hfile =>
    have habsent : t.files.lookup names = none := by
      rw [← Option.not_isSome_iff_eq_none, isSome_lookup_iff]
      exact mt isFile_iff.2 hfile
    rw [List.lookup_append, lookup_cons_eq_ite, List.lookup_nil]
    split
    · next h => simp [h, habsent]
    · simp

end Put

/-- Gives some files their contents, one after the other. -/
def putAll (t : FileTree) (written : List (List String × ByteArray)) : FileTree :=
  written.foldl (fun t f => t.put f.1 f.2) t

section PutAll

variable {t : FileTree} {written : List (List String × ByteArray)}

theorem putAll_cons (t : FileTree) (f : List String × ByteArray)
    (written : List (List String × ByteArray)) :
    t.putAll (f :: written) = (t.put f.1 f.2).putAll written := rfl

@[simp] theorem putAll_workingDirectory :
    (t.putAll written).workingDirectory = t.workingDirectory := by
  induction written generalizing t with
  | nil => rfl
  | cons f rest ih => rw [putAll_cons, ih, put_workingDirectory]

@[simp] theorem putAll_directories : (t.putAll written).directories = t.directories := by
  induction written generalizing t with
  | nil => rfl
  | cons f rest ih => rw [putAll_cons, ih, put_directories]

theorem lookup_putAll_of_notMem {names : List String} (h : ∀ f ∈ written, f.1 ≠ names) :
    (t.putAll written).files.lookup names = t.files.lookup names := by
  induction written generalizing t with
  | nil => rfl
  | cons f rest ih =>
    have hne : names ≠ f.1 := (h f (by simp)).symm
    rw [putAll_cons, ih fun g hg => h g (List.mem_cons_of_mem _ hg), lookup_put, if_neg hne]

/-- A file that is written has what was written, if all that is written to it agrees. -/
theorem lookup_putAll_of_mem {names : List String} {content : ByteArray}
    (hmem : (names, content) ∈ written) (hagree : ∀ f ∈ written, f.1 = names → f.2 = content) :
    (t.putAll written).files.lookup names = some content := by
  induction written generalizing t with
  | nil => cases hmem
  | cons f rest ih =>
    rw [putAll_cons]
    by_cases hlater : (names, content) ∈ rest
    · exact ih hlater fun g hg => hagree g (List.mem_cons_of_mem _ hg)
    · -- Then nothing after the first goes to these names: it would have this content.
      obtain rfl : (names, content) = f := (List.mem_cons.1 hmem).resolve_right hlater
      have hrest : ∀ g ∈ rest, g.1 ≠ names := by
        rintro ⟨other, more⟩ hg rfl
        have hmore : more = content := hagree _ (List.mem_cons_of_mem _ hg) rfl
        exact hlater (hmore ▸ hg)
      rw [lookup_putAll_of_notMem hrest, lookup_put, if_pos rfl]

end PutAll

/-! ## Directories -/

theorem isDirectory_iff {t : FileTree} {names : List String} :
    t.isDirectory names = true ↔ names = [] ∨ names <+: t.workingDirectory
      ∨ (∃ directory ∈ t.directories, names <+: directory)
      ∨ ∃ file ∈ t.fileNames, names <+: file ∧ file ≠ names := by
  simp [isDirectory, fileNames, or_assoc]

/-- What leads to a directory leads through directories. -/
theorem isDirectory_above {t : FileTree} {names longer : List String}
    (h : t.isDirectory longer = true) (habove : names <+: longer) :
    t.isDirectory names = true := by
  rw [isDirectory_iff] at h ⊢
  obtain rfl | h | ⟨d, hd, h⟩ | ⟨file, hfile, h, hne⟩ := h
  · exact .inl (List.prefix_nil.1 habove)
  · exact .inr (.inl (habove.trans h))
  · exact .inr (.inr (.inl ⟨d, hd, habove.trans h⟩))
  · refine .inr (.inr (.inr ⟨file, hfile, habove.trans h, ?_⟩))
    rintro rfl
    exact hne (h.eq_of_length_le habove.length_le).symm

/-- A file that goes into a directory makes no new directory. -/
theorem isDirectory_put {t : FileTree} {directory : List String} {name : String}
    (h : t.isDirectory directory = true) (content : ByteArray) (names : List String) :
    (t.put (directory ++ [name]) content).isDirectory names = t.isDirectory names := by
  rw [Bool.eq_iff_iff]
  constructor
  · intro hput
    rw [isDirectory_iff, put_workingDirectory, put_directories] at hput
    rw [isDirectory_iff]
    obtain hput | hput | hput | ⟨file, hfile, habove, hne⟩ := hput
    · exact .inl hput
    · exact .inr (.inl hput)
    · exact .inr (.inr (.inl hput))
    · rw [mem_fileNames_put] at hfile
      obtain hfile | rfl := hfile
      · exact .inr (.inr (.inr ⟨file, hfile, habove, hne⟩))
      · -- What lies above the new file lies above its directory, or is that.
        have hparent : names <+: directory :=
          (List.prefix_concat_iff.1 habove).resolve_left hne.symm
        exact isDirectory_iff.1 (isDirectory_above h hparent)
  · intro hnames
    rw [isDirectory_iff] at hnames
    rw [isDirectory_iff, put_workingDirectory, put_directories]
    obtain hnames | hnames | hnames | ⟨file, hfile, habove⟩ := hnames
    · exact .inl hnames
    · exact .inr (.inl hnames)
    · exact .inr (.inr (.inl hnames))
    · exact .inr (.inr (.inr ⟨file, (mem_fileNames_put ..).2 (.inl hfile), habove⟩))

/-! ## Following paths -/

theorem follow_append (t : FileTree) (place before after : List String) :
    t.follow place (before ++ after)
      = (t.follow place before).bind fun reached => t.follow reached after := by
  induction before generalizing place with
  | nil => rfl
  | cons segment rest ih =>
    simp only [List.cons_append, follow]
    split
    · rfl
    · split
      · exact ih place
      · split
        · exact ih _
        · exact ih _

theorem eq_of_follow_idle {t : FileTree} {place idle reached : List String}
    (hidle : ∀ s ∈ idle, isIdle s = true) (h : t.follow place idle = .ok reached) :
    place = reached := by
  induction idle with
  | nil => exact Except.ok.inj h
  | cons segment rest ih =>
    rw [follow, hidle segment (by simp)] at h
    split at h
    · cases h
    · exact ih (fun s hs => hidle s (List.mem_cons_of_mem _ hs)) h

/-- Where a path with these segments starts. -/
def start (t : FileTree) (segments : List String) : List String :=
  if segments.head? = some "" then [] else t.workingDirectory

theorem resolve_eq_follow (t : FileTree) {path : String} (h : path ≠ "") :
    t.resolve path = t.follow (t.start (segments path)) (segments path) := by
  unfold resolve start
  simp only [if_neg h, startsWith_slash_iff h]
  split <;> rfl

theorem ne_empty_of_resolve {t : FileTree} {path : String} {names : List String}
    (h : t.resolve path = .ok names) : path ≠ "" := by
  rintro rfl
  cases h

/-- **A name below a directory.** -/
theorem resolve_of_isChild {t : FileTree} {path name child : String} {directory : List String}
    (hpath : t.resolve path = .ok directory) (hdirectory : t.isDirectory directory = true)
    (hname : IsName name) (hchild : IsChild path name child) :
    t.resolve child = .ok (directory ++ [name]) := by
  have hchildne := hchild.ne_empty
  obtain ⟨base, idle, hsegments, hbase, hidle, hchild⟩ := hchild
  have hstart (more : List String) : t.start (base ++ more) = t.start base := by
    unfold start
    rw [List.head?_append_of_ne_nil _ hbase]
  rw [resolve_eq_follow t (ne_empty_of_resolve hpath), hsegments, hstart, follow_append] at hpath
  rw [resolve_eq_follow t hchildne, hchild, hstart, follow_append]
  cases hreached : t.follow (t.start base) base with
  | error e =>
    rw [hreached] at hpath
    cases hpath
  | ok reached =>
    rw [hreached] at hpath
    obtain rfl := eq_of_follow_idle hidle hpath
    simp [Except.bind, follow, hdirectory, hname.not_isIdle, hname.ne_parent]

theorem resolve_foldl_join {t : FileTree} {root : String} {directory names : List String}
    (hroot : t.resolve root = .ok directory) (hnames : ∀ name ∈ names, IsName name)
    (hdirectory : t.isDirectory (directory ++ names) = true) :
    t.resolve (names.foldl join root) = .ok (directory ++ names) := by
  induction names using List.reverseRecOn with
  | nil => simpa using hroot
  | append_singleton init name ih =>
    have hinit : t.isDirectory (directory ++ init) = true :=
      isDirectory_above hdirectory ((List.prefix_append_right_inj _).2 (List.prefix_append ..))
    have hreached := ih (fun n hn => hnames n (List.mem_append_left _ hn)) hinit
    have hname : IsName name := hnames name (by simp)
    rw [List.foldl_append, List.foldl_cons, List.foldl_nil, ← List.append_assoc]
    exact resolve_of_isChild hreached hinit hname
      (isChild_join (ne_empty_of_resolve hreached) hname)

/-! ## Sources below a directory -/

/-- The file of these names is a source, and it is below the directory. -/
structure IsSourceBelow (t : FileTree) (directory names : List String) : Prop where
  isFile : names ∈ t.fileNames
  below : directory <+: names
  ne : names ≠ directory
  isSource : isSource names = true

theorem isSource_concat {directory : List String} {name : String} :
    isSource (directory ++ [name]) = true ↔ extension? name = some "sol" := by
  simp [isSource]

theorem exists_concat_of_isSource {names : List String} (h : isSource names = true) :
    ∃ init name, names = init ++ [name] ∧ extension? name = some "sol" := by
  obtain rfl | ⟨init, name, rfl⟩ := List.eq_nil_or_concat' names
  · cases h
  · exact ⟨init, name, rfl, isSource_concat.1 h⟩

/-- The part of some names below a directory, if a source has them. -/
def sourceBelow? (directory names : List String) : Option (List String) :=
  if directory.isPrefixOf names && names != directory && isSource names then
    some (names.drop directory.length)
  else none

theorem sourceBelow?_eq_some_iff {directory names rest : List String} :
    sourceBelow? directory names = some rest
      ↔ names = directory ++ rest ∧ names ≠ directory ∧ isSource names = true := by
  unfold sourceBelow?
  constructor
  · intro h
    split at h
    · next hcond =>
      simp only [Bool.and_eq_true, List.isPrefixOf_iff_prefix, bne_iff_ne] at hcond
      obtain ⟨⟨⟨more, rfl⟩, hne⟩, hsource⟩ := hcond
      rw [List.drop_left, Option.some_inj] at h
      exact ⟨h ▸ rfl, hne, hsource⟩
    · cases h
  · rintro ⟨rfl, hne, hsource⟩
    have habove : directory.isPrefixOf (directory ++ rest) = true :=
      List.isPrefixOf_iff_prefix.2 (List.prefix_append ..)
    simp [habove, hne, hsource]

theorem sourcesBelow_perm (t : FileTree) (directory : List String) :
    (t.sourcesBelow directory).Perm (t.fileNames.filterMap (sourceBelow? directory)) := by
  unfold sourcesBelow fileNames
  rw [List.filterMap_map]
  exact List.mergeSort_perm ..

theorem mem_sourcesBelow {t : FileTree} {directory rest : List String} :
    rest ∈ t.sourcesBelow directory ↔ t.IsSourceBelow directory (directory ++ rest) := by
  rw [(sourcesBelow_perm t directory).mem_iff, List.mem_filterMap]
  constructor
  · rintro ⟨names, hfile, hrest⟩
    obtain ⟨rfl, hne, hsource⟩ := sourceBelow?_eq_some_iff.1 hrest
    exact ⟨hfile, List.prefix_append .., hne, hsource⟩
  · intro h
    exact ⟨_, h.isFile, sourceBelow?_eq_some_iff.2 ⟨rfl, h.ne, h.isSource⟩⟩

theorem nodup_sourcesBelow {t : FileTree} (ht : t.WellFormed) (directory : List String) :
    (t.sourcesBelow directory).Nodup := by
  rw [(sourcesBelow_perm t directory).nodup_iff]
  refine List.Nodup.filterMap ?_ ht.nodup
  intro names other rest hrest hrest'
  rw [(sourceBelow?_eq_some_iff.1 hrest).1, (sourceBelow?_eq_some_iff.1 hrest').1]

/-! ## The order of sources -/

theorem namesLe_total (names other : List String) :
    (namesLe names other || namesLe other names) = true := by
  induction names generalizing other with
  | nil => simp [namesLe]
  | cons x xs ih =>
    cases other with
    | nil => simp [namesLe]
    | cons y ys =>
      by_cases h : x = y
      · simpa [namesLe, h] using ih ys
      · simpa [namesLe, h, Ne.symm h] using lt_or_gt_of_ne h

theorem namesLe_trans (a b c : List String) (hab : namesLe a b = true) (hbc : namesLe b c = true) :
    namesLe a c = true := by
  induction a generalizing b c with
  | nil => simp [namesLe]
  | cons x xs ih =>
    obtain ⟨y, ys, rfl⟩ : ∃ y ys, b = y :: ys := by
      cases b with
      | nil => cases hab
      | cons y ys => exact ⟨y, ys, rfl⟩
    obtain ⟨z, zs, rfl⟩ : ∃ z zs, c = z :: zs := by
      cases c with
      | nil => cases hbc
      | cons z zs => exact ⟨z, zs, rfl⟩
    rw [namesLe] at hab hbc ⊢
    by_cases hxy : x = y
    · subst hxy
      rw [if_pos rfl] at hab
      by_cases hxz : x = z
      · rw [if_pos hxz] at hbc ⊢
        exact ih ys zs hab hbc
      · rwa [if_neg hxz] at hbc ⊢
    · rw [if_neg hxy, decide_eq_true_iff] at hab
      have hlt : x < z := by
        by_cases hyz : y = z
        · exact hyz ▸ hab
        · rw [if_neg hyz, decide_eq_true_iff] at hbc
          exact String.lt_trans hab hbc
      have hne : x ≠ z := fun h => String.lt_irrefl z (h ▸ hlt)
      rw [if_neg hne, decide_eq_true_iff]
      exact hlt

/-- Names in strict order give paths in strict order. -/
theorem lex_of_namesLe {names other : List String} (h : namesLe names other = true)
    (hne : names ≠ other) :
    List.Lex Component.Lt (names.map .name) (other.map .name) := by
  induction names generalizing other with
  | nil =>
    obtain ⟨y, ys, rfl⟩ := List.exists_cons_of_ne_nil (Ne.symm hne)
    exact .nil
  | cons x xs ih =>
    cases other with
    | nil => cases h
    | cons y ys =>
      rw [namesLe] at h
      split at h
      · next hxy =>
        subst hxy
        exact .cons (ih h fun heq => hne (heq ▸ rfl))
      · have hlt : x < y := of_decide_eq_true h
        exact .rel hlt

/-! ## The paths of sources -/

/-- Where the tree of the file of these names goes: into the same directory. -/
def dumpNames (names : List String) : List String :=
  names.dropLast ++ [dumpName (names.getLast?.getD "")]

theorem dumpNames_concat (directory : List String) (name : String) :
    dumpNames (directory ++ [name]) = directory ++ [dumpName name] := by
  simp [dumpNames]

/-- The tree of a file is no source. -/
theorem isSource_dumpNames (names : List String) : isSource (dumpNames names) = false := by
  rw [← Bool.not_eq_true, dumpNames, isSource_concat, extension?_dumpName]
  decide

/-- Different sources have different trees. -/
theorem dumpNames_inj {names other : List String} (hnames : isSource names = true)
    (hother : isSource other = true) (h : dumpNames names = dumpNames other) : names = other := by
  obtain ⟨init, name, rfl, hname⟩ := exists_concat_of_isSource hnames
  obtain ⟨init', name', rfl, hname'⟩ := exists_concat_of_isSource hother
  rw [dumpNames_concat, dumpNames_concat] at h
  obtain ⟨rfl, hdump⟩ := List.append_inj' h (by simp)
  rw [eq_of_dumpName_eq hname hname' (List.singleton_inj.1 hdump)]

/-- The path leads to the source of these names, and its dump path to where the tree goes. -/
structure LeadsToSource (t : FileTree) (directory : List String) (path : String)
    (names : List String) : Prop where
  source : t.IsSourceBelow directory names
  resolve_path : t.resolve path = .ok names
  isDirectory : t.isDirectory names.dropLast = true
  resolve_dumpPath : t.resolve (dumpPath path) = .ok (dumpNames names)

theorem leadsToSource_foldl_join {t : FileTree} (ht : t.WellFormed) {root : String}
    {directory rest : List String} (hroot : t.resolve root = .ok directory)
    (hrest : rest ∈ t.sourcesBelow directory) :
    t.LeadsToSource directory (rest.foldl join root) (directory ++ rest) := by
  have hsource := mem_sourcesBelow.1 hrest
  have hnames : ∀ name ∈ rest, IsName name := fun name hname =>
    ht.isName _ hsource.isFile name (List.mem_append_right _ hname)
  obtain rfl | ⟨init, name, rfl⟩ := List.eq_nil_or_concat' rest
  · exact absurd (List.append_nil directory) hsource.ne
  have hname : IsName name := hnames name (by simp)
  have hdirectory : t.isDirectory (directory ++ init) = true := by
    have habove : directory ++ init <+: directory ++ (init ++ [name]) := by
      rw [← List.append_assoc]
      exact List.prefix_append ..
    exact isDirectory_iff.2 (.inr (.inr (.inr ⟨_, hsource.isFile, habove, by simp⟩)))
  have hreached := resolve_foldl_join hroot (fun n hn => hnames n (by simp [hn])) hdirectory
  have hne := ne_empty_of_resolve hreached
  rw [List.foldl_append, List.foldl_cons, List.foldl_nil, ← List.append_assoc]
  refine ⟨by rwa [List.append_assoc], ?_, by rwa [List.dropLast_concat], ?_⟩
  · exact resolve_of_isChild hreached hdirectory hname (isChild_join hne hname)
  · rw [dumpNames_concat]
    exact resolve_of_isChild hreached hdirectory (isName_dumpName hname)
      (isChild_dumpPath hne hname)

section Collect

variable {t : FileTree} {root : String} {directory : List String}

theorem collect_eq (hroot : t.resolve root = .ok directory) :
    t.collect root = (t.sourcesBelow directory).map fun rest => rest.foldl join root := by
  rw [collect, hroot]

/-- Every path that is collected leads to a source. -/
theorem leadsToSource_of_mem_collect (ht : t.WellFormed) (hroot : t.resolve root = .ok directory)
    {path : String} (hpath : path ∈ t.collect root) :
    ∃ names, t.LeadsToSource directory path names := by
  rw [collect_eq hroot] at hpath
  obtain ⟨rest, hrest, rfl⟩ := List.mem_map.1 hpath
  exact ⟨directory ++ rest, leadsToSource_foldl_join ht hroot hrest⟩

/-- Two paths that are collected and lead to the same file are the same. -/
theorem eq_of_mem_collect (ht : t.WellFormed) (hroot : t.resolve root = .ok directory)
    {path other : String} (hpath : path ∈ t.collect root) (hother : other ∈ t.collect root)
    (h : t.resolve path = t.resolve other) : path = other := by
  rw [collect_eq hroot] at hpath hother
  obtain ⟨rest, hrest, rfl⟩ := List.mem_map.1 hpath
  obtain ⟨rest', hrest', rfl⟩ := List.mem_map.1 hother
  rw [(leadsToSource_foldl_join ht hroot hrest).resolve_path,
    (leadsToSource_foldl_join ht hroot hrest').resolve_path] at h
  rw [List.append_cancel_left (Except.ok.inj h)]

/-- **One path for each source.** -/
theorem existsUnique_mem_collect (ht : t.WellFormed) (hroot : t.resolve root = .ok directory)
    {names : List String} (hnames : t.IsSourceBelow directory names) :
    ∃! path, path ∈ t.collect root ∧ t.resolve path = .ok names := by
  obtain ⟨rest, rfl⟩ := hnames.below
  have hrest := mem_sourcesBelow.2 hnames
  have hmem : rest.foldl join root ∈ t.collect root := by
    rw [collect_eq hroot]
    exact List.mem_map_of_mem hrest
  have hleads := (leadsToSource_foldl_join ht hroot hrest).resolve_path
  refine ⟨rest.foldl join root, ⟨hmem, hleads⟩, ?_⟩
  rintro other ⟨hother, hother'⟩
  exact eq_of_mem_collect ht hroot hother hmem (hother'.trans hleads.symm)

/-- **The paths are in strict order.** -/
theorem collect_pairwise_before (ht : t.WellFormed) (hroot : t.resolve root = .ok directory) :
    (t.collect root).Pairwise Before := by
  have hsorted : (t.sourcesBelow directory).Pairwise fun a b => namesLe a b = true :=
    List.pairwise_mergeSort namesLe_trans namesLe_total _
  have hisName : ∀ rest ∈ t.sourcesBelow directory, ∀ name ∈ rest, IsName name :=
    fun rest hrest name hname =>
      ht.isName _ (mem_sourcesBelow.1 hrest).isFile name (List.mem_append_right _ hname)
  rw [collect_eq hroot, List.pairwise_map]
  refine (hsorted.and (nodup_sourcesBelow ht directory)).imp_of_mem ?_
  rintro rest other hrest hother ⟨hle, hne⟩
  have hroot' := ne_empty_of_resolve hroot
  unfold Before
  rw [components_foldl_join hroot' (hisName rest hrest),
    components_foldl_join hroot' (hisName other hother)]
  exact List.Lex.append_left _ (lex_of_namesLe hle hne) _

end Collect

end SolidityLint.FileTree
