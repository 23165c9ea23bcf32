import Mathlib.Data.List.Flatten
import SolidityLint.Report.Text

set_option autoImplicit false

/-! # Colours change no content

With colours on, a report has escape sequences in it that it does not have with colours off. This
file defines the text that is left when every such sequence is deleted (`withoutCodes`) and shows
that it is the report with colours off (`colours_change_no_content`).

Deleting sequences from a text and from what follows it is deleting them from the whole, provided no
sequence begins in one part and ends in the other (`SequencesClosed`). None does if the text has no
escape character, or if the next character is one that no sequence has. The texts of a report are of
the first kind; the identifier of a rule, which a bracket follows, is of the second
(`StyledText.Isolates`). -/

namespace SolidityLint

/-! ## Deleting escape sequences -/

/-- A digit or a semicolon. -/
def isCodeCharacter (c : Char) : Bool :=
  c.isDigit || c = ';'

/-- May these characters be the codes of a sequence? -/
def AreCodes (codes : List Char) : Prop :=
  ∀ c ∈ codes, isCodeCharacter c = true

instance (codes : List Char) : Decidable (AreCodes codes) :=
  List.decidableBAll (fun c => isCodeCharacter c = true) codes

/-- What follows codes and the `m` that ends them. -/
def afterCodes? : List Char → Option (List Char)
  | [] => none
  | c :: rest =>
      if c = 'm' then some rest else if isCodeCharacter c then afterCodes? rest else none

/-- What follows the escape sequence that a text starts with. -/
def afterSequence? : List Char → Option (List Char)
  | '\x1b' :: '[' :: rest => afterCodes? rest
  | _ => none

theorem afterCodes?_eq_some_iff {text rest : List Char} :
    afterCodes? text = some rest ↔ ∃ codes, AreCodes codes ∧ text = codes ++ 'm' :: rest := by
  constructor
  · intro h
    fun_induction afterCodes? text with
    | case1 => cases h
    | case2 after =>
      obtain rfl := Option.some_inj.1 h
      exact ⟨[], by simp [AreCodes], rfl⟩
    | case3 c after hm hc ih =>
      obtain ⟨codes, hcodes, rfl⟩ := ih h
      exact ⟨c :: codes, by simpa [AreCodes, hc] using hcodes, rfl⟩
    | case4 => cases h
  · rintro ⟨codes, hcodes, rfl⟩
    induction codes with
    | nil => simp [afterCodes?]
    | cons c codes ih =>
      have hc : isCodeCharacter c = true := hcodes c (by simp)
      have hm : c ≠ 'm' := by
        rintro rfl
        exact absurd hc (by decide)
      have hrest : AreCodes codes := fun x hx => hcodes x (List.mem_cons_of_mem _ hx)
      rw [List.cons_append, afterCodes?, if_neg hm, if_pos hc, ih hrest]

/-- **A sequence is an escape character, a bracket, codes and an `m`.** -/
theorem afterSequence?_eq_some_iff {text rest : List Char} :
    afterSequence? text = some rest
      ↔ ∃ codes : String, AreCodes codes.toList ∧ text = escapeSequence codes ++ rest := by
  unfold afterSequence?
  split
  · rename_i text
    rw [afterCodes?_eq_some_iff]
    constructor
    · rintro ⟨codes, hcodes, rfl⟩
      exact ⟨String.ofList codes, by simpa using hcodes, by simp [escapeSequence]⟩
    · rintro ⟨codes, hcodes, h⟩
      refine ⟨codes.toList, hcodes, ?_⟩
      simpa [escapeSequence] using h
  · rename_i hother
    constructor
    · intro h
      cases h
    · rintro ⟨codes, -, rfl⟩
      exact absurd rfl (hother _)

theorem afterSequence?_eq_none {text : List Char}
    (h : ∀ codes : String, AreCodes codes.toList → ∀ rest, text ≠ escapeSequence codes ++ rest) :
    afterSequence? text = none := by
  cases hafter : afterSequence? text with
  | none => rfl
  | some rest =>
    obtain ⟨codes, hcodes, heq⟩ := afterSequence?_eq_some_iff.1 hafter
    exact absurd heq (h codes hcodes rest)

theorem length_lt_of_afterSequence? {text rest : List Char} (h : afterSequence? text = some rest) :
    rest.length < text.length := by
  obtain ⟨codes, -, rfl⟩ := afterSequence?_eq_some_iff.1 h
  rw [List.length_append]
  simp [escapeSequence]

/-- Deletes every escape sequence, from left to right. -/
def dropCodes (text : List Char) : List Char :=
  match text with
  | [] => []
  | c :: rest =>
      match _h : afterSequence? (c :: rest) with
      | some after => dropCodes after
      | none => c :: dropCodes rest
termination_by text.length
decreasing_by
  · exact length_lt_of_afterSequence? _h
  · simp

/-- What is left of a text when every escape sequence is deleted. -/
def withoutCodes (text : String) : String :=
  String.ofList (dropCodes text.toList)

@[simp] theorem dropCodes_nil : dropCodes [] = [] := by
  rw [dropCodes]

theorem dropCodes_of_sequence {text rest : List Char} (h : afterSequence? text = some rest) :
    dropCodes text = dropCodes rest := by
  cases text with
  | nil => cases h
  | cons c text =>
    rw [dropCodes]
    split
    · rename_i after hafter
      rw [Option.some_inj.1 (hafter.symm.trans h)]
    · rename_i hnone
      cases hnone.symm.trans h

theorem dropCodes_cons {c : Char} {text : List Char} (h : afterSequence? (c :: text) = none) :
    dropCodes (c :: text) = c :: dropCodes text := by
  rw [dropCodes]
  split
  · rename_i after hafter
    cases h.symm.trans hafter
  · rfl

theorem dropCodes_escapeSequence_append {codes : String} (hcodes : AreCodes codes.toList)
    (after : List Char) : dropCodes (escapeSequence codes ++ after) = dropCodes after :=
  dropCodes_of_sequence (afterSequence?_eq_some_iff.2 ⟨codes, hcodes, rfl⟩)

theorem dropCodes_sublist (text : List Char) : (dropCodes text).Sublist text := by
  fun_induction dropCodes text with
  | case1 => exact List.Sublist.refl _
  | case2 c rest after h ih =>
    obtain ⟨codes, -, heq⟩ := afterSequence?_eq_some_iff.1 h
    rw [heq]
    exact ih.trans (List.sublist_append_right _ _)
  | case3 c rest h ih => exact ih.cons_cons c

/-! ## Texts that no sequence leaves -/

/-- No escape sequence begins in the text and ends after it. -/
def SequencesClosed (text : List Char) : Prop :=
  ∀ after, dropCodes (text ++ after) = dropCodes text ++ dropCodes after

theorem dropCodes_append_of_no_escape {text : List Char} (h : '\x1b' ∉ text) (after : List Char) :
    dropCodes (text ++ after) = text ++ dropCodes after := by
  induction text with
  | nil => rfl
  | cons c text ih =>
    rw [List.mem_cons, not_or] at h
    have hnone : afterSequence? (c :: (text ++ after)) = none := by
      apply afterSequence?_eq_none
      intro codes _ rest heq
      exact h.1 (List.cons_eq_cons.1 heq).1.symm
    rw [List.cons_append, dropCodes_cons hnone, ih h.2, List.cons_append]

theorem dropCodes_of_no_escape {text : List Char} (h : '\x1b' ∉ text) : dropCodes text = text := by
  simpa using dropCodes_append_of_no_escape h []

theorem sequencesClosed_of_no_escape {text : List Char} (h : '\x1b' ∉ text) :
    SequencesClosed text := by
  intro after
  rw [dropCodes_append_of_no_escape h, dropCodes_of_no_escape h]

/-- A character that no sequence has ends whatever began before it. -/
theorem dropCodes_append_stop {c : Char}
    (hc : ∀ codes : String, AreCodes codes.toList → c ∉ escapeSequence codes)
    (text after : List Char) :
    dropCodes (text ++ c :: after) = dropCodes text ++ dropCodes (c :: after) := by
  fun_induction dropCodes text with
  | case1 => rfl
  | case2 first rest tail h ih =>
    obtain ⟨codes, hcodes, heq⟩ := afterSequence?_eq_some_iff.1 h
    rw [heq, List.append_assoc, dropCodes_escapeSequence_append hcodes, ih]
  | case3 first rest h ih =>
    have hstart : ∀ codes : String, AreCodes codes.toList → ∀ tail,
        first :: rest ≠ escapeSequence codes ++ tail := by
      intro codes hcodes tail heq
      cases h.symm.trans (afterSequence?_eq_some_iff.2 ⟨codes, hcodes, heq⟩)
    have hnone : afterSequence? (first :: (rest ++ c :: after)) = none := by
      apply afterSequence?_eq_none
      intro codes hcodes tail heq
      rw [← List.cons_append] at heq
      -- Either the sequence ends within the text or it takes in the character.
      obtain ⟨excess, hseq, hexcess⟩ | ⟨left, htext, -⟩ := List.append_eq_append_iff.1 heq
      · cases excess with
        | nil => exact hstart codes hcodes [] (by simpa using hseq.symm)
        | cons x excess =>
          obtain ⟨rfl, -⟩ := List.cons_eq_cons.1 hexcess
          exact hc codes hcodes (by simp [hseq])
      · exact hstart codes hcodes left htext
    rw [List.cons_append, dropCodes_cons hnone, ih, List.cons_append]

/-! ## Pieces of text -/

/-- A text without an escape character. -/
def EscapeFree (text : String) : Prop :=
  '\x1b' ∉ text.toList

instance (text : String) : Decidable (EscapeFree text) :=
  inferInstanceAs (Decidable ('\x1b' ∉ text.toList))

@[simp] theorem escapeFree_append {text more : String} :
    EscapeFree (text ++ more) ↔ EscapeFree text ∧ EscapeFree more := by
  simp [EscapeFree]

@[simp] theorem escapeFree_repr (n : Nat) : EscapeFree n.repr := by
  intro h
  rw [Nat.repr, String.toList_ofList] at h
  exact absurd (Nat.isDigit_of_mem_toDigits (by simp) (by simp) h) (by decide)

theorem EscapeFree.withoutCodes_eq {text : String} (h : EscapeFree text) :
    withoutCodes text = text := by
  rw [withoutCodes, dropCodes_of_no_escape h, String.ofList_toList]

theorem withoutCodes_eq_iff {text other : String} :
    withoutCodes text = other ↔ dropCodes text.toList = other.toList := by
  rw [← String.toList_inj, withoutCodes, String.toList_ofList]

theorem afterResets_of_no_escape (addition : List Char) {text : List Char} (h : '\x1b' ∉ text) :
    afterResets addition text = text := by
  fun_induction afterResets addition text with
  | case1 rest ih => simp at h
  | case2 c rest hother ih =>
    rw [List.mem_cons, not_or] at h
    rw [ih h.2]
  | case3 => rfl

theorem areCodes_code (style : Style) : AreCodes style.code.toList := by
  cases style <;> decide

/-- No sequence leaves the piece, and a style is only for a text without sequences. -/
structure Piece.Whole (p : Piece) : Prop where
  closed : SequencesClosed p.text.toList
  escapeFree : p.style ≠ none → EscapeFree p.text

theorem Piece.whole_of_escapeFree {p : Piece} (h : EscapeFree p.text) : p.Whole :=
  ⟨sequencesClosed_of_no_escape h, fun _ => h⟩

/-- **The sequences of a style can be deleted on their own.** -/
theorem Piece.Whole.dropCodes_render_append {p : Piece} (h : p.Whole) (after : List Char) :
    dropCodes ((p.render true).toList ++ after) = dropCodes p.text.toList ++ dropCodes after := by
  unfold Piece.render
  split
  · rename_i style hstyle
    have hfree : '\x1b' ∉ p.text.toList := h.escapeFree (by simp [hstyle])
    have hreset : AreCodes "0".toList := by decide
    rw [if_pos rfl, String.toList_ofList, afterResets_of_no_escape _ hfree, List.append_assoc,
      List.append_assoc, Style.start, dropCodes_escapeSequence_append (areCodes_code style),
      dropCodes_append_of_no_escape hfree, resetSequence,
      dropCodes_escapeSequence_append hreset, dropCodes_of_no_escape hfree]
  · exact h.closed after

theorem Piece.render_false (p : Piece) : p.render false = p.text := by
  unfold Piece.render
  split <;> simp

namespace StyledText

theorem dropCodes_render {text : StyledText} (h : ∀ p ∈ text, p.Whole) :
    dropCodes (render true text).toList = text.flatMap fun p => dropCodes p.text.toList := by
  rw [render, String.toList_join]
  induction text with
  | nil => simp
  | cons p text ih =>
    rw [List.map_cons, List.flatMap_cons, (h p (by simp)).dropCodes_render_append,
      ih fun q hq => h q (List.mem_cons_of_mem _ hq), List.flatMap_cons]

theorem toList_render_false (text : StyledText) :
    (render false text).toList = text.flatMap fun p => p.text.toList := by
  rw [render, String.toList_join, List.flatMap_map]
  simp only [Piece.render_false]

/-- Parts that are no longer than other parts make up the same whole only if they are the same. -/
theorem flatMap_dropCodes_eq_iff (text : StyledText) :
    (text.flatMap fun p => dropCodes p.text.toList) = (text.flatMap fun p => p.text.toList)
      ↔ ∀ p ∈ text, withoutCodes p.text = p.text := by
  induction text with
  | nil => simp
  | cons p text ih =>
    rw [List.flatMap_cons, List.flatMap_cons, List.forall_mem_cons, ← ih, withoutCodes_eq_iff]
    constructor
    · intro h
      have hshorter := (dropCodes_sublist p.text.toList).length_le
      have hrest := (List.Sublist.flatMap_right text fun (q : Piece) _ =>
        dropCodes_sublist q.text.toList).length_le
      have htotal := congrArg List.length h
      rw [List.length_append, List.length_append] at htotal
      exact List.append_inj h (by omega)
    · rintro ⟨hp, htext⟩
      rw [hp, htext]

/-- No sequence leaves a piece of the text, and the pieces have sequences only if one of these words
    has. -/
structure Isolates (text : StyledText) (words : List String) : Prop where
  whole : ∀ p ∈ text, p.Whole
  unchanged_iff : (∀ p ∈ text, withoutCodes p.text = p.text)
    ↔ ∀ word ∈ words, withoutCodes word = word

theorem isolates_of_escapeFree {text : StyledText} (h : ∀ p ∈ text, EscapeFree p.text) :
    Isolates text [] :=
  ⟨fun p hp => Piece.whole_of_escapeFree (h p hp),
    iff_of_true (fun p hp => (h p hp).withoutCodes_eq) (by simp)⟩

theorem Isolates.append {text more : StyledText} {words others : List String}
    (h : Isolates text words) (hmore : Isolates more others) :
    Isolates (text ++ more) (words ++ others) := by
  constructor
  · rw [List.forall_mem_append]
    exact ⟨h.whole, hmore.whole⟩
  · rw [List.forall_mem_append, List.forall_mem_append, h.unchanged_iff, hmore.unchanged_iff]

theorem Isolates.free_append {text more : StyledText} {words : List String}
    (htext : ∀ p ∈ text, EscapeFree p.text) (h : Isolates more words) :
    Isolates (text ++ more) words :=
  (isolates_of_escapeFree htext).append h

theorem Isolates.append_free {text more : StyledText} {words : List String}
    (h : Isolates text words) (hmore : ∀ p ∈ more, EscapeFree p.text) :
    Isolates (text ++ more) words := by
  simpa using h.append (isolates_of_escapeFree hmore)

theorem isolates_flatMap {α : Type} {text : α → StyledText} {words : α → List String}
    {xs : List α} (h : ∀ x ∈ xs, Isolates (text x) (words x)) :
    Isolates (xs.flatMap text) (xs.flatMap words) := by
  induction xs with
  | nil => exact isolates_of_escapeFree (by simp)
  | cons x xs ih =>
    rw [List.flatMap_cons, List.flatMap_cons]
    exact (h x (by simp)).append (ih fun y hy => h y (List.mem_cons_of_mem _ hy))

theorem bracket_notMem_escapeSequence {codes : String} (h : AreCodes codes.toList) :
    ']' ∉ escapeSequence codes := by
  have hcodes : ']' ∉ codes.toList := fun hmem => absurd (h _ hmem) (by decide)
  simp [escapeSequence, hcodes]

theorem dropCodes_bracketed {before after : String} (hbefore : EscapeFree before)
    (hafter : EscapeFree after) (word : String) (rest : List Char) :
    dropCodes ((before ++ word ++ "]" ++ after).toList ++ rest)
      = before.toList ++ dropCodes word.toList ++ ']' :: after.toList ++ dropCodes rest := by
  have htext : (before ++ word ++ "]" ++ after).toList ++ rest
      = before.toList ++ (word.toList ++ ']' :: (after.toList ++ rest)) := by
    simp
  have hend : '\x1b' ∉ ']' :: after.toList := by
    rw [List.mem_cons, not_or]
    exact ⟨by decide, hafter⟩
  rw [htext, dropCodes_append_of_no_escape hbefore,
    dropCodes_append_stop fun _ => bracket_notMem_escapeSequence, ← List.cons_append,
    dropCodes_append_of_no_escape hend]
  simp

/-- A word in brackets is isolated by the bracket that follows it. -/
theorem isolates_bracketed {before after : String} (hbefore : EscapeFree before)
    (hafter : EscapeFree after) (word : String) :
    Isolates [plain (before ++ word ++ "]" ++ after)] [word] := by
  have hdrop := dropCodes_bracketed hbefore hafter word
  have halone := hdrop []
  rw [List.append_nil, dropCodes_nil, List.append_nil] at halone
  constructor
  · rw [List.forall_mem_singleton]
    refine ⟨?_, fun h => absurd rfl h⟩
    intro rest
    rw [plain, hdrop, halone]
  · rw [List.forall_mem_singleton, List.forall_mem_singleton, withoutCodes_eq_iff,
      withoutCodes_eq_iff, plain, halone]
    simp

/-- **Colours add nothing but codes**, unless an isolated word has codes of its own. -/
theorem Isolates.withoutCodes_render_iff {text : StyledText} {words : List String}
    (h : Isolates text words) :
    withoutCodes (render true text) = render false text
      ↔ ∀ word ∈ words, withoutCodes word = word := by
  rw [withoutCodes_eq_iff, dropCodes_render h.whole, toList_render_false,
    flatMap_dropCodes_eq_iff, h.unchanged_iff]

end StyledText

/-! ## Reports -/

/-- The message and the page of a finding have no escape character. -/
structure Diagnostic.NoEscapes (d : Diagnostic) : Prop where
  message : EscapeFree d.message
  reference : ∀ page ∈ d.reference, EscapeFree page

/-- Nor have the names of the file and of its tree. -/
structure FileReport.NoEscapes (r : FileReport) : Prop where
  file : EscapeFree r.file
  treeFile : ∀ file ∈ r.treeFile, EscapeFree file
  diagnostics : ∀ d ∈ r.diagnostics, d.NoEscapes

/-- No text in any report of the run has an escape character. -/
def RunReport.NoEscapes (r : RunReport) : Prop :=
  ∀ file ∈ r.files, file.NoEscapes

/-- The identifier of the finding is that of a rule. -/
def Diagnostic.Catalogued (d : Diagnostic) : Prop :=
  ∃ rule ∈ Rule.catalogue, d.ruleId = rule.id

theorem Diagnostic.Catalogued.withoutCodes_ruleId {d : Diagnostic} (h : d.Catalogued) :
    withoutCodes d.ruleId = d.ruleId := by
  obtain ⟨rule, hrule, hid⟩ := h
  have hfree : ∀ rule ∈ Rule.catalogue, EscapeFree rule.id := by decide
  rw [hid]
  exact (hfree rule hrule).withoutCodes_eq

@[simp] theorem plain_text (text : String) : (plain text).text = text := rfl

@[simp] theorem Style.of_text (style : Style) (text : String) : (style.of text).text = text := rfl

theorem Severity.escapeFree_styled (severity : Severity) : EscapeFree severity.styled.text := by
  cases severity <;> decide

open StyledText

/-- What follows the identifier of a finding on its line. -/
def Diagnostic.lineEnd (d : Diagnostic) : String :=
  " " ++ d.message ++ " (line: " ++ toString d.location.start.line ++ ", column: "
    ++ toString d.location.start.column ++ ")"

/-- The only codes of a finding are those of its identifier. -/
theorem Diagnostic.isolates_styled {d : Diagnostic} (h : d.NoEscapes) :
    Isolates d.styled [d.ruleId] := by
  have hseverity : ∀ p ∈ [d.severity.styled], EscapeFree p.text := by
    simpa using d.severity.escapeFree_styled
  have hend : EscapeFree d.lineEnd := by simp +decide [lineEnd, h.message]
  have hline : Isolates [plain (" [" ++ d.ruleId ++ "]" ++ d.lineEnd)] [d.ruleId] :=
    isolates_bracketed (by decide) hend d.ruleId
  have htext : " [" ++ d.ruleId ++ "]" ++ d.lineEnd
      = " [" ++ d.ruleId ++ "] " ++ d.message ++ " (line: " ++ toString d.location.start.line
        ++ ", column: " ++ toString d.location.start.column ++ ")" := by
    rw [← String.toList_inj]
    simp [lineEnd]
  rw [htext] at hline
  have hhead := hline.free_append hseverity
  unfold Diagnostic.styled
  cases hreference : d.reference with
  | none => exact hhead.append_free (by simp)
  | some page => exact hhead.append_free (by simp +decide [h.reference page hreference])

theorem isolates_numbered {findings : List Diagnostic} (h : ∀ d ∈ findings, d.NoEscapes)
    (number : Nat) : Isolates (numbered number findings) (findings.map Diagnostic.ruleId) := by
  induction findings generalizing number with
  | nil => exact isolates_of_escapeFree (by simp [numbered])
  | cons d rest ih =>
    have hnumber : ∀ p ∈ [plain (" " ++ toString number ++ ". ")], EscapeFree p.text := by
      simp +decide
    have hfinding := Diagnostic.isolates_styled (h d (by simp))
    have hrest := ih (fun e he => h e (List.mem_cons_of_mem _ he)) (number + 1)
    have hfeed : ∀ p ∈ [plain "\n"], EscapeFree p.text := by decide
    exact (hfinding.free_append hnumber).append (hrest.free_append hfeed)

/-- The findings of a file, or the note that there are none. -/
theorem FileReport.isolates_findings {r : FileReport} (h : r.NoEscapes) :
    Isolates (if r.diagnostics.isEmpty then [plain " No issues found.\n"]
      else numbered 1 r.diagnostics) (r.diagnostics.map Diagnostic.ruleId) := by
  by_cases hempty : r.diagnostics = []
  · rw [hempty]
    exact isolates_of_escapeFree (by decide)
  · rw [if_neg (by simpa using hempty)]
    exact isolates_numbered h.diagnostics 1

theorem FileReport.isolates_styled {r : FileReport} (h : r.NoEscapes) :
    Isolates r.styled (r.diagnostics.map Diagnostic.ruleId) := by
  have hfile : ∀ p ∈ [plain "\n", Style.bold.of r.file, plain "\n"], EscapeFree p.text := by
    simp +decide [h.file]
  have hbody := (FileReport.isolates_findings h).free_append hfile
  unfold FileReport.styled
  cases htree : r.treeFile with
  | none => exact hbody.append_free (by simp)
  | some file => exact hbody.append_free (by simp +decide [h.treeFile file htree])

theorem Summary.escapeFree_styled (s : Summary) : ∀ p ∈ s.styled, EscapeFree p.text := by
  unfold Summary.styled
  by_cases hcount : 0 < s.suppressedCount
  · rw [if_pos hcount]
    simp +decide
  · rw [if_neg hcount]
    simp +decide

/-- All findings of some reports. -/
def allDiagnostics (reports : List FileReport) : List Diagnostic :=
  reports.flatMap FileReport.diagnostics

/-- The only codes of a report are those of the identifiers of its findings. -/
theorem RunReport.isolates_styled {r : RunReport} (h : r.NoEscapes) :
    Isolates r.styled ((allDiagnostics r.files).map Diagnostic.ruleId) := by
  have htitle : ∀ p ∈ [Style.bold.of "Solidity Static Analysis Results", plain "\n",
      plain "================================\n"], EscapeFree p.text := by decide
  have hfiles := isolates_flatMap fun file hfile => FileReport.isolates_styled (h file hfile)
  have hend : ∀ p ∈ [plain "\nAnalysis complete.\n"], EscapeFree p.text := by decide
  rw [allDiagnostics, List.map_flatMap]
  exact ((hfiles.free_append htitle).append_free r.summary.escapeFree_styled).append_free hend

/-- **Colours change no content.** Without the escape sequences, a report or a finding with colours
    on is the one with colours off. This holds exactly if no identifier of a rule has sequences of
    its own, and none of the catalogue has. -/
theorem colours_change_no_content :
    (∀ r : RunReport, r.NoEscapes →
        ((∀ d ∈ allDiagnostics r.files, d.Catalogued) →
          withoutCodes (StyledText.render true r.styled) = StyledText.render false r.styled)
        ∧ (withoutCodes (StyledText.render true r.styled) = StyledText.render false r.styled
          ↔ ∀ d ∈ allDiagnostics r.files, withoutCodes d.ruleId = d.ruleId))
      ∧ ∀ d : Diagnostic, d.NoEscapes →
        (d.Catalogued →
          withoutCodes (StyledText.render true d.styled) = StyledText.render false d.styled)
        ∧ (withoutCodes (StyledText.render true d.styled) = StyledText.render false d.styled
          ↔ withoutCodes d.ruleId = d.ruleId) := by
  constructor
  · intro r h
    have hiff := (RunReport.isolates_styled h).withoutCodes_render_iff
    rw [List.forall_mem_map] at hiff
    exact ⟨fun hrules => hiff.2 fun d hd => (hrules d hd).withoutCodes_ruleId, hiff⟩
  · intro d h
    have hiff := (Diagnostic.isolates_styled h).withoutCodes_render_iff
    rw [List.forall_mem_singleton] at hiff
    exact ⟨fun hrule => hiff.2 hrule.withoutCodes_ruleId, hiff⟩

/-- A finding whose message, like the names around it, reads like the rest of a sequence. -/
def tornCode : Diagnostic :=
  Rule.txOrigin.diagnostic "[31m avoid using tx.origin" ⟨⟨7, 8⟩, ⟨7, 17⟩⟩

/-- A report whose texts, too, read like the rest of a sequence. -/
def tornCodes : RunReport :=
  .ofReports [⟨"[1mVault.sol", [tornCode], 1, some "[1mVaultAST.json"⟩]

/-- Colours show, and deleting their sequences takes away nothing else. -/
theorem colours_change_no_content_tornCodes :
    tornCodes.NoEscapes ∧ tornCode.NoEscapes ∧ tornCode.Catalogued
      ∧ StyledText.render true tornCode.styled ≠ StyledText.render false tornCode.styled
      ∧ withoutCodes (StyledText.render true tornCodes.styled)
        = StyledText.render false tornCodes.styled
      ∧ withoutCodes (StyledText.render true tornCode.styled)
        = StyledText.render false tornCode.styled := by
  have hfinding : tornCode.NoEscapes := ⟨by decide, by decide +kernel⟩
  have hrule : tornCode.Catalogued := ⟨Rule.txOrigin, by simp [Rule.catalogue], rfl⟩
  have hreport : tornCodes.NoEscapes := by
    intro file hfile
    obtain rfl := List.mem_singleton.1 hfile
    refine ⟨by decide, by decide, ?_⟩
    intro d hd
    obtain rfl := List.mem_singleton.1 hd
    exact hfinding
  have hrules : ∀ d ∈ allDiagnostics tornCodes.files, d.Catalogued := by
    intro d hd
    obtain rfl : d = tornCode := by simpa [tornCodes, RunReport.ofReports, allDiagnostics] using hd
    exact hrule
  have hshown : StyledText.render true tornCode.styled
      ≠ StyledText.render false tornCode.styled := by decide +kernel
  exact ⟨hreport, hfinding, hrule, hshown, (colours_change_no_content.1 _ hreport).1 hrules,
    (colours_change_no_content.2 _ hfinding).1 hrule⟩

end SolidityLint
