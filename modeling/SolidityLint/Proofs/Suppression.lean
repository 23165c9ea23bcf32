import SolidityLint.Analysis

set_option autoImplicit false

/-! # Which findings comments silence

A marker on a line asks for silence on the line itself or on the line below. This file says what a
line of a text is without cutting the text up (`Text.IsLine`), what a line asks for
(`Suppression.Asks`), and which of this a report grants: all of it, except that a line with both
markers keeps its own findings, because the marker for the line below overrules the other one
(`Suppression.Overruled`).

The lines of a text come from one equation, `Text.pieces_append_mark`: a mark cuts a text in two. -/

namespace SolidityLint

/-! ## Lines of a text -/

namespace Text

/-- `line` is the line of that number in a text: no line feed is in it, it starts the text or
    follows a line feed, it ends the text or a line feed follows, and the line feeds before it give
    its number, counted from one. -/
def IsLine (text : List Char) (number : Nat) (line : List Char) : Prop :=
  ∃ before after, text = before ++ line ++ after ∧ '\n' ∉ line
    ∧ (before = [] ∨ ∃ more, before = more ++ ['\n'])
    ∧ (after = [] ∨ ∃ more, after = '\n' :: more)
    ∧ number = before.count '\n' + 1

theorem IsLine.getElem?_lines {text : List Char} {number : Nat} {line : List Char}
    (h : IsLine text number line) : ∃ i, number = i + 1 ∧ (lines text)[i]? = some line := by
  obtain ⟨before, after, rfl, hline, hbefore, hafter, rfl⟩ := h
  -- What starts with a line and goes on after a line feed, if at all, has that line first.
  have hhead : ∃ more, lines (line ++ after) = line :: more := by
    unfold lines
    rcases hafter with rfl | ⟨rest, rfl⟩
    · rw [List.append_nil, pieces_of_notMem _ hline]
      exact ⟨[], rfl⟩
    · rw [pieces_append_mark, pieces_of_notMem _ hline]
      exact ⟨_, rfl⟩
  obtain ⟨more, hmore⟩ := hhead
  refine ⟨before.count '\n', rfl, ?_⟩
  rcases hbefore with rfl | ⟨start, rfl⟩
  · rw [List.nil_append, hmore]
    rfl
  · have hcut : lines (start ++ ['\n'] ++ line ++ after) = lines start ++ line :: more := by
      rw [← hmore, lines, lines, lines, ← pieces_append_mark]
      simp
    have hcount : (start ++ ['\n']).count '\n' = (lines start).length := by
      rw [lines, length_pieces, List.count_append]
      rfl
    rw [hcut, hcount]
    simp

/-! A character in front of a text: a line feed moves every line down by one and puts an empty line
before them, and any other character becomes part of the first line. -/

theorem isLine_nil_of_lineFeed (rest : List Char) : IsLine ('\n' :: rest) 1 [] :=
  ⟨[], '\n' :: rest, rfl, by simp, .inl rfl, .inr ⟨rest, rfl⟩, rfl⟩

theorem IsLine.cons_lineFeed {rest : List Char} {number : Nat} {line : List Char}
    (h : IsLine rest number line) : IsLine ('\n' :: rest) (number + 1) line := by
  obtain ⟨before, after, rfl, hline, hbefore, hafter, rfl⟩ := h
  refine ⟨'\n' :: before, after, rfl, hline, .inr ?_, hafter, ?_⟩
  · rcases hbefore with rfl | ⟨more, rfl⟩
    · exact ⟨[], rfl⟩
    · exact ⟨'\n' :: more, rfl⟩
  · rw [List.count_cons_self]

section OtherCharacter

variable {c : Char} {rest line : List Char}

theorem IsLine.cons_first (hc : c ≠ '\n') (h : IsLine rest 1 line) :
    IsLine (c :: rest) 1 (c :: line) := by
  obtain ⟨before, after, rfl, hline, hbefore, hafter, hnumber⟩ := h
  -- Only nothing stands before the first line, since a line feed would count.
  obtain rfl : before = [] := by
    rcases hbefore with rfl | ⟨start, rfl⟩
    · rfl
    · rw [List.count_append] at hnumber
      simp at hnumber
  refine ⟨[], after, rfl, ?_, .inl rfl, hafter, rfl⟩
  rw [List.mem_cons, not_or]
  exact ⟨Ne.symm hc, hline⟩

theorem IsLine.cons_later {i : Nat} (hc : c ≠ '\n') (h : IsLine rest (i + 2) line) :
    IsLine (c :: rest) (i + 2) line := by
  obtain ⟨before, after, rfl, hline, hbefore, hafter, hnumber⟩ := h
  refine ⟨c :: before, after, rfl, hline, .inr ?_, hafter, ?_⟩
  · rcases hbefore with rfl | ⟨start, rfl⟩
    · simp at hnumber
    · exact ⟨c :: start, rfl⟩
  · rw [List.count_cons_of_ne hc]
    exact hnumber

end OtherCharacter

theorem isLine_of_getElem?_lines {text : List Char} {i : Nat} {line : List Char}
    (h : (lines text)[i]? = some line) : IsLine text (i + 1) line := by
  unfold lines at h
  induction text generalizing i line with
  | nil =>
    cases i with
    | zero =>
      obtain rfl : [] = line := by simpa [pieces] using h
      exact ⟨[], [], rfl, by simp, .inl rfl, .inl rfl, rfl⟩
    | succ i => exact absurd h (by simp [pieces])
  | cons c rest ih =>
    by_cases hc : c = '\n'
    · subst hc
      rw [pieces, if_pos rfl] at h
      cases i with
      | zero =>
        obtain rfl : [] = line := by simpa using h
        exact isLine_nil_of_lineFeed rest
      | succ i => exact (ih h).cons_lineFeed
    · obtain ⟨piece, more, hpieces⟩ := List.exists_cons_of_ne_nil (pieces_ne_nil '\n' rest)
      rw [pieces, if_neg hc, hpieces] at h
      rw [hpieces] at ih
      cases i with
      | zero =>
        obtain rfl : c :: piece = line := by simpa using h
        exact IsLine.cons_first hc (ih rfl)
      | succ i => exact IsLine.cons_later hc (ih h)

theorem isLine_iff {text : List Char} {number : Nat} {line : List Char} :
    IsLine text number line ↔ ∃ i, number = i + 1 ∧ (lines text)[i]? = some line := by
  constructor
  · exact IsLine.getElem?_lines
  · rintro ⟨i, rfl, h⟩
    exact isLine_of_getElem?_lines h

theorem occursIn_iff_infix {word text : List Char} :
    occursIn word text = true ↔ word <:+: text := by
  induction text with
  | nil => simp [occursIn]
  | cons c rest ih =>
    rw [occursIn, Bool.or_eq_true, ih, List.isPrefixOf_iff_prefix, List.infix_cons_iff]

end Text

/-! ## What markers ask for -/

namespace Suppression

/-- The line of that number in a source has the marker somewhere in its text. -/
def Carries (marker source : String) (number : Nat) : Prop :=
  ∃ line, Text.IsLine source.toList number line ∧ marker.toList <:+: line

/-- The line just above has the marker for the line below it. -/
def CarriedAbove (source : String) (number : Nat) : Prop :=
  ∃ above, number = above + 1 ∧ Carries nextLine source above

/-- A comment asks for silence on that line: the line itself has the one marker, or the line above
    the other. -/
def Asks (source : String) (number : Nat) : Prop :=
  Carries thisLine source number ∨ CarriedAbove source number

/-- The line has both markers and the line above has none for it, so that nothing but its own
    marker asks for silence. -/
def Overruled (source : String) (number : Nat) : Prop :=
  Carries thisLine source number ∧ Carries nextLine source number ∧ ¬CarriedAbove source number

/-! ## What the scan finds -/

theorem carries_iff {marker source : String} {number : Nat} :
    Carries marker source number ↔ ∃ i line, number = i + 1
      ∧ (Text.lines source.toList)[i]? = some line ∧ Text.occursIn marker.toList line = true := by
  unfold Carries
  constructor
  · rintro ⟨line, hline, hmarker⟩
    obtain ⟨i, hnumber, hget⟩ := Text.isLine_iff.1 hline
    exact ⟨i, line, hnumber, hget, Text.occursIn_iff_infix.2 hmarker⟩
  · rintro ⟨i, line, hnumber, hget, hmarker⟩
    exact ⟨line, Text.isLine_iff.2 ⟨i, hnumber, hget⟩, Text.occursIn_iff_infix.1 hmarker⟩

theorem carries_succ_iff {marker source : String} {i : Nat} {line : List Char}
    (hline : (Text.lines source.toList)[i]? = some line) :
    Carries marker source (i + 1) ↔ Text.occursIn marker.toList line = true := by
  rw [carries_iff]
  constructor
  · rintro ⟨j, other, hnumber, hother, hmarker⟩
    obtain rfl : i = j := by omega
    obtain rfl : line = other := by simpa [hline] using hother
    exact hmarker
  · intro hmarker
    exact ⟨i, line, rfl, hline, hmarker⟩

theorem not_carries_zero (marker source : String) : ¬Carries marker source 0 := by
  rw [carries_iff]
  rintro ⟨i, line, hnumber, -⟩
  omega

theorem not_carries_succ {marker source : String} {i : Nat}
    (hline : (Text.lines source.toList)[i]? = none) : ¬Carries marker source (i + 1) := by
  rw [carries_iff]
  rintro ⟨j, other, hnumber, hother, -⟩
  obtain rfl : i = j := by omega
  rw [hline] at hother
  exact absurd hother (by simp)

instance (marker source : String) : (number : Nat) → Decidable (Carries marker source number)
  | 0 => isFalse (not_carries_zero marker source)
  | i + 1 =>
    match h : (Text.lines source.toList)[i]? with
    | some _ => decidable_of_iff _ (carries_succ_iff h).symm
    | none => isFalse (not_carries_succ h)

theorem mem_silencedFrom_iff {start number : Nat} {lines : List (List Char)} :
    number ∈ silencedFrom start lines
      ↔ ∃ i line, lines[i]? = some line ∧ silencedBy (start + i) line = some number := by
  induction lines generalizing start with
  | nil => simp [silencedFrom]
  | cons line rest ih =>
    rw [silencedFrom, List.mem_append, Option.mem_toList, ih]
    constructor
    · rintro (h | ⟨i, other, hother, h⟩)
      · exact ⟨0, line, rfl, h⟩
      · exact ⟨i + 1, other, hother, by rw [← h, Nat.add_right_comm, Nat.add_assoc]⟩
    · rintro ⟨i, other, hother, h⟩
      cases i with
      | zero =>
        obtain rfl : line = other := by simpa using hother
        exact .inl h
      | succ i => exact .inr ⟨i, other, hother, by rw [← h, Nat.add_right_comm, Nat.add_assoc]⟩

theorem silencedBy_eq_some_iff {i number : Nat} {line : List Char} :
    silencedBy (i + 1) line = some number
      ↔ Text.occursIn nextLine.toList line = true ∧ number = i + 2
        ∨ Text.occursIn nextLine.toList line = false
          ∧ Text.occursIn thisLine.toList line = true ∧ number = i + 1 := by
  unfold silencedBy
  by_cases hnext : Text.occursIn nextLine.toList line = true
  · rw [if_pos hnext, Option.some.injEq]
    simp only [hnext]
    grind
  · rw [if_neg hnext]
    rw [Bool.not_eq_true] at hnext
    simp only [hnext]
    grind

/-- **The silenced lines** are those below a line with the marker for it, and those that have the
    marker for themselves and not the other one too. -/
theorem mem_silencedLines_iff {source : String} {number : Nat} :
    number ∈ silencedLines source
      ↔ CarriedAbove source number
        ∨ Carries thisLine source number ∧ ¬Carries nextLine source number := by
  unfold silencedLines
  rw [List.mem_eraseDups, mem_silencedFrom_iff]
  constructor
  · rintro ⟨i, line, hline, h⟩
    rw [Nat.add_comm, silencedBy_eq_some_iff] at h
    rcases h with ⟨hnext, rfl⟩ | ⟨hnext, hthis, rfl⟩
    · exact .inl ⟨i + 1, rfl, (carries_succ_iff hline).2 hnext⟩
    · refine .inr ⟨(carries_succ_iff hline).2 hthis, ?_⟩
      rw [carries_succ_iff hline, hnext]
      simp
  · rintro (⟨above, rfl, habove⟩ | ⟨hthis, hnext⟩)
    · obtain ⟨i, line, rfl, hline, hmarker⟩ := carries_iff.1 habove
      refine ⟨i, line, hline, ?_⟩
      rw [Nat.add_comm, silencedBy_eq_some_iff]
      exact .inl ⟨hmarker, rfl⟩
    · obtain ⟨i, line, rfl, hline, hmarker⟩ := carries_iff.1 hthis
      rw [carries_succ_iff hline, Bool.not_eq_true] at hnext
      refine ⟨i, line, hline, ?_⟩
      rw [Nat.add_comm, silencedBy_eq_some_iff]
      exact .inr ⟨hnext, hmarker, rfl⟩

/-- What is asked for is granted unless it is overruled. -/
theorem mem_silencedLines_iff_asks {source : String} {number : Nat} :
    number ∈ silencedLines source ↔ Asks source number ∧ ¬Overruled source number := by
  rw [mem_silencedLines_iff, Asks, Overruled]
  by_cases habove : CarriedAbove source number
  · simp [habove]
  · by_cases hnext : Carries nextLine source number
    · simp [habove, hnext]
    · simp [habove, hnext]

/-! ## What a report leaves out -/

theorem info_le (severity : Severity) : Severity.info ≤ severity :=
  Nat.zero_le severity.rank

/-- With every severity reported, a report has the findings that are not on a silenced line. -/
theorem diagnostics_report (settings : Settings) (path source : String) (treeFile : Option String)
    (unit : Ast.SourceUnit) (hhonour : settings.honourSuppressions = true)
    (hinfo : settings.minSeverity = .info) :
    (settings.report path source treeFile unit).diagnostics
      = (Engine.run settings.options unit).filter fun d =>
          !(silencedLines source).contains d.location.start.line := by
  have hsilenced : settings.silencedLines source = silencedLines source := by
    rw [Settings.silencedLines, if_pos hhonour]
  rw [Settings.report, hsilenced, hinfo]
  refine List.filter_eq_self.2 fun d _ => ?_
  exact decide_eq_true (info_le d.severity)

/-- **Which findings are missing from a report.** A source that can be read gets a report, whose
    findings are those of the pass in order. A finding of the pass is missing from it exactly when a
    comment asks for silence on its line and is not overruled. So the findings that are missing are
    those that comments ask for, except on a line with both markers that nothing else silences. -/
theorem missing_iff_asked (settings : Settings) (path source : String) (unit : Ast.SourceUnit)
    (hhonour : settings.honourSuppressions = true) (hinfo : settings.minSeverity = .info)
    (hparse : Ast.SourceUnit.parse path source = .ok unit) :
    ∃ report, settings.analyseSource path source = .ok report
      ∧ report.diagnostics.Sublist (Engine.run settings.options unit)
      ∧ ∀ d ∈ Engine.run settings.options unit,
        (d ∉ report.diagnostics
          ↔ Asks source d.location.start.line ∧ ¬Overruled source d.location.start.line)
        ∧ ((d ∉ report.diagnostics ↔ Asks source d.location.start.line)
          ↔ ¬Overruled source d.location.start.line) := by
  refine ⟨settings.report path source none unit, ?_, ?_, ?_⟩
  · rw [Settings.analyseSource, hparse]
    rfl
  · rw [diagnostics_report settings path source none unit hhonour hinfo]
    exact List.filter_sublist
  · intro d hd
    have hmissing : d ∉ (settings.report path source none unit).diagnostics
        ↔ Asks source d.location.start.line ∧ ¬Overruled source d.location.start.line := by
      rw [diagnostics_report settings path source none unit hhonour hinfo,
        ← mem_silencedLines_iff_asks, List.mem_filter]
      simp [hd]
    -- What is overruled is asked for.
    have hasks : Overruled source d.location.start.line → Asks source d.location.start.line :=
      fun h => .inl h.1
    refine ⟨hmissing, ?_⟩
    rw [hmissing]
    constructor
    · intro h hover
      exact (h.2 (hasks hover)).2 hover
    · intro hover
      exact and_iff_left hover

/-- A source with one finding, on a line with the marker for itself. -/
def silencedSource : String := "contract vault\x7b\x7d//solcheck-disable-line"

/-- The same with the marker for the line below on the line too. -/
def overruledSource : String :=
  "contract vault\x7b\x7d//solcheck-disable-line solcheck-disable-next-line"

/-- The finding in both. -/
def vaultName : Diagnostic :=
  ⟨"SOL-N002", "contract name \"vault\" should be capWord!", .info, ⟨⟨1, 0⟩, ⟨1, 16⟩⟩,
    NamingPage.contract.reference⟩

theorem exists_unit_of_run {path source : String} {options : Options} {found : List Diagnostic}
    (h : (Ast.SourceUnit.parse path source).toOption.map (Engine.run options) = some found) :
    ∃ unit, Ast.SourceUnit.parse path source = .ok unit ∧ Engine.run options unit = found := by
  cases hparse : Ast.SourceUnit.parse path source with
  | error e =>
    rw [hparse] at h
    exact absurd h (by simp [Except.toOption])
  | ok unit =>
    rw [hparse] at h
    exact ⟨unit, rfl, by simpa [Except.toOption] using h⟩

/-- The marker of the line silences the finding. -/
theorem missing_iff_asked_silencedSource :
    ∃ unit report, Ast.SourceUnit.parse "Vault.sol" silencedSource = .ok unit
      ∧ Settings.default.analyseSource "Vault.sol" silencedSource = .ok report
      ∧ vaultName ∈ Engine.run ⟨false⟩ unit
      ∧ (vaultName ∉ report.diagnostics
        ↔ Asks silencedSource 1 ∧ ¬Overruled silencedSource 1)
      ∧ vaultName ∉ report.diagnostics := by
  obtain ⟨unit, hparse, hrun⟩ := exists_unit_of_run
    (show (Ast.SourceUnit.parse "Vault.sol" silencedSource).toOption.map (Engine.run ⟨false⟩)
      = some [vaultName] by decide +kernel)
  obtain ⟨report, hreport, -, hmissing⟩ :=
    missing_iff_asked .default "Vault.sol" silencedSource unit rfl rfl hparse
  have hd : vaultName ∈ Engine.run ⟨false⟩ unit := by
    rw [hrun]
    exact List.mem_singleton_self _
  have hasks : Carries thisLine silencedSource 1 := by decide +kernel
  have hover : ¬Carries nextLine silencedSource 1 := by decide +kernel
  have hiff := (hmissing vaultName hd).1
  exact ⟨unit, report, hparse, hreport, hd, hiff, hiff.2 ⟨.inl hasks, fun h => hover h.2.1⟩⟩

/-- With both markers on its line the finding is reported, although the line asks for silence. -/
theorem overruledSource_reported :
    Asks overruledSource vaultName.location.start.line
    ∧ (Ast.SourceUnit.parse "Vault.sol" overruledSource).toOption.map (Engine.run ⟨false⟩)
      = some [vaultName]
    ∧ (Settings.default.analyseSource "Vault.sol" overruledSource).toOption
      = some ⟨"Vault.sol", [vaultName], 0, none⟩ := by
  refine ⟨.inl ?_, ?_, ?_⟩
  · decide +kernel
  · decide +kernel
  · decide +kernel

end Suppression

end SolidityLint
