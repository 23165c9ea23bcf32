import Mathlib.Logic.Basic
import SolidityLint.Proofs.NamePatterns
import SolidityLint.Proofs.TargetSpelling

set_option autoImplicit false

/-! # The underscore advice and the case advice

A leading underscore marks what is not public. The advice on it looks at the first character of a
name and the advice on case sets the underscore aside, so that the two do not pull in different
directions: of a name with and without the underscore exactly one is right
(`xor_advised_of_iff`), and both get the same case findings.

Constants are the exception, because their underscore is judged with the rest of the name. The upper
case admits one at the start, so marking a constant is always safe; taking the mark away is safe
unless a digit then comes first (`mem_upperCase_iff`). A public constant `_1A` is caught between the
two: it should not have the mark, and without it the case is wrong. -/

namespace SolidityLint

namespace Ast

/-- The declaration under another name. -/
def VariableDeclaration.spelled (v : VariableDeclaration) (name : String) : VariableDeclaration :=
  { v with name := some name }

/-- The definition under another name. -/
def FunctionDefinition.spelled (f : FunctionDefinition) (name : String) : FunctionDefinition :=
  { f with name := some name }

end Ast

namespace Check

open Ast

/-! ## Marked names -/

/-- A name with the underscore that marks what is not public. -/
def withUnderscore (name : String) : String :=
  "_" ++ name

/-- The spelling that the underscore advice asks for where it objects to `name`. -/
def respelled (name : String) : String :=
  if Text.startsWith '_' name then withoutUnderscore name else withUnderscore name

section Marked

variable {n : String}

theorem toList_withUnderscore (n : String) : (withUnderscore n).toList = '_' :: n.toList := by
  simp [withUnderscore]

theorem startsWith_withUnderscore (n : String) :
    Text.startsWith '_' (withUnderscore n) = true := by
  simp [Text.startsWith, toList_withUnderscore]

theorem withoutUnderscore_withUnderscore (n : String) :
    withoutUnderscore (withUnderscore n) = n := by
  simp [withoutUnderscore, Text.dropFirst, toList_withUnderscore]

theorem withoutUnderscore_of_unmarked (hn : Text.startsWith '_' n = false) :
    withoutUnderscore n = n := by
  unfold withoutUnderscore Text.dropFirst
  split
  · next first rest hlist =>
    have hfirst : first ≠ '_' := by simpa [Text.startsWith, hlist] using hn
    rw [if_neg hfirst]
  · rfl

theorem respelled_of_unmarked (hn : Text.startsWith '_' n = false) :
    respelled n = withUnderscore n := by
  simp [respelled, hn]

theorem respelled_withUnderscore (n : String) : respelled (withUnderscore n) = n := by
  simp [respelled, startsWith_withUnderscore, withoutUnderscore_withUnderscore]

end Marked

/-! ## Which spelling is advised against -/

/-- Is there a finding of this rule? -/
def Reports (rule : Rule) (found : List Diagnostic) : Prop :=
  ∃ d ∈ found, d.ruleId = rule.id

instance (rule : Rule) (found : List Diagnostic) : Decidable (Reports rule found) :=
  inferInstanceAs (Decidable (∃ d ∈ found, d.ruleId = rule.id))

/-- The underscore advice objects to this name of a state variable. -/
def VariableAdvised (v : VariableDeclaration) (name : String) : Prop :=
  Reports Rule.stateVariableUnderscore (stateVariableUnderscore (v.spelled name))

/-- The underscore advice objects to this name of a function. -/
def FunctionAdvised (f : FunctionDefinition) (name : String) : Prop :=
  Reports Rule.functionUnderscore (functionUnderscore (f.spelled name))

/-- The case advice objects to this name of a state variable. -/
def CaseAdvised (v : VariableDeclaration) (name : String) : Prop :=
  Reports Rule.nameCase (stateVariableName (v.spelled name))

theorem variableAdvised_iff {v : VariableDeclaration} (hv : v.isStateVariable = true)
    (name : String) :
    VariableAdvised v name ↔ (v.visibility = .pub ↔ Text.startsWith '_' name = true) := by
  unfold VariableAdvised
  rw [stateVariableUnderscore_eq]
  by_cases hpub : v.visibility = .pub <;> cases hmark : Text.startsWith '_' name <;>
    simp [VariableDeclaration.spelled, Reports, Rule.diagnostic, hv, hpub, hmark]

theorem functionAdvised_iff {f : FunctionDefinition} (hf : f.isFree = false) (name : String) :
    FunctionAdvised f name
      ↔ (¬ (f.visibility = .priv ∨ f.visibility = .internal)
          ↔ Text.startsWith '_' name = true) := by
  unfold FunctionAdvised
  rw [functionUnderscore_eq]
  cases hvisibility : f.visibility <;> cases hmark : Text.startsWith '_' name <;>
    simp [FunctionDefinition.spelled, Reports, Rule.diagnostic, hf, hvisibility, hmark]

/-- Advice that goes by the first character alone objects to exactly one of the two spellings. -/
theorem xor_advised_of_iff {advised : String → Prop} {unmarked : Prop}
    (h : ∀ name, advised name ↔ (unmarked ↔ Text.startsWith '_' name = true)) {n : String}
    (hn : Text.startsWith '_' n = false) : Xor (advised n) (advised (withUnderscore n)) := by
  rw [h, h, hn, startsWith_withUnderscore]
  by_cases hunmarked : unmarked <;> simp [Xor, hunmarked]

/-! ## Case findings of the two spellings -/

theorem stateVariableName_withUnderscore {v : VariableDeclaration} (hv : v.isConstant = false)
    {n : String} (hn : Text.startsWith '_' n = false) :
    stateVariableName (v.spelled (withUnderscore n)) = stateVariableName (v.spelled n) := by
  simp [stateVariableName_eq, VariableDeclaration.spelled, hv, withoutUnderscore_withUnderscore,
    withoutUnderscore_of_unmarked hn]

theorem functionName_withUnderscore (f : FunctionDefinition) {n : String}
    (hn : Text.startsWith '_' n = false) :
    functionName (f.spelled (withUnderscore n)) = functionName (f.spelled n) := by
  simp [functionName_eq, FunctionDefinition.spelled, withoutUnderscore_withUnderscore,
    withoutUnderscore_of_unmarked hn]

/-! ### Constants -/

theorem reports_nameCase_iff {kind name : String} {style : CaseStyle} {reference : Option String}
    {loc : Location} (hname : name ≠ "") :
    Reports Rule.nameCase (judgeName kind name style reference loc)
      ↔ stem name.toList ∉ style.pattern.matches' := by
  have hmap : Reports Rule.nameCase (judgeName kind name style reference loc)
      ↔ "SOL-N002" ∈ ((judgeName kind name style reference loc).map
          fun d => (d.ruleId, d.location)).map Prod.fst := by
    simp [Reports, Rule.nameCase]
  rw [hmap, judgeName_findings, if_neg hname]
  split <;> split <;> simp_all

theorem stem_cons {c : Char} {rest : List Char} (h : c ≠ '_' ∨ rest ≠ []) :
    stem (c :: rest) = c :: stem rest := by
  rw [stem]
  rintro rfl rfl
  simp at h

theorem cons_mem_pattern_iff {style : CaseStyle} {c : Char} {rest : List Char} :
    c :: rest ∈ style.pattern.matches'
      ↔ style.admitsFirst c = true ∧ ∀ d ∈ rest, style.admitsLater d = true := by
  rw [CaseStyle.mem_pattern_iff]
  constructor
  · rintro ⟨_, _, heq, hfirst, hlater⟩
    obtain ⟨rfl, rfl⟩ := List.cons.inj heq
    exact ⟨hfirst, hlater⟩
  · rintro ⟨hfirst, hlater⟩
    exact ⟨c, rest, rfl, hfirst, hlater⟩

theorem isDigit_of_isUpperLetter {c : Char} (h : isUpperLetter c = true) : isDigit c = false := by
  rw [Bool.eq_false_iff]
  intro hdigit
  simp only [isUpperLetter, isDigit, Bool.and_eq_true, decide_eq_true_eq] at h hdigit
  exact absurd (Char.le_trans h.1 hdigit.2) (by decide)

/-- In upper case, a name is right without the underscore iff it is right with one and does not
    start with a digit. -/
theorem mem_upperCase_iff {c : Char} (hc : c ≠ '_') (rest : List Char) :
    stem (c :: rest) ∈ CaseStyle.upperCase.pattern.matches'
      ↔ stem ('_' :: c :: rest) ∈ CaseStyle.upperCase.pattern.matches' ∧ isDigit c = false := by
  have hplain : stem (c :: rest) = c :: stem rest := stem_cons (.inl hc)
  have hmarked : stem ('_' :: c :: rest) = '_' :: c :: stem rest := by
    rw [stem_cons (.inr (by simp)), hplain]
  rw [hplain, hmarked, cons_mem_pattern_iff, cons_mem_pattern_iff, List.forall_mem_cons]
  have hfirst : CaseStyle.upperCase.admitsFirst c = true
      ↔ CaseStyle.upperCase.admitsLater c = true ∧ isDigit c = false := by
    have hdigit := @isDigit_of_isUpperLetter c
    simp only [CaseStyle.admitsFirst, CaseStyle.admitsLater, Bool.or_eq_true, beq_iff_eq, hc,
      or_false]
    grind
  have hunderscore : CaseStyle.upperCase.admitsFirst '_' = true := by decide
  rw [hfirst, and_iff_right hunderscore]
  exact and_right_comm

/-- Is the first character a digit? -/
def startsWithDigit (name : String) : Bool :=
  name.toList.head?.any isDigit

theorem caseAdvised_constant_iff {v : VariableDeclaration} (hv : v.isConstant = true) {n : String}
    (hn : Text.startsWith '_' n = false) (hne : n ≠ "") :
    ¬ CaseAdvised v n ↔ ¬ CaseAdvised v (withUnderscore n) ∧ startsWithDigit n = false := by
  have hjudge : ∀ name, stateVariableName (v.spelled name)
      = judgeName "constant variable" name .upperCase none v.loc := by
    intro name
    simp [stateVariableName_eq, VariableDeclaration.spelled, hv]
  have hmarked : withUnderscore n ≠ "" := by
    intro hempty
    simpa [toList_withUnderscore] using congrArg String.toList hempty
  unfold CaseAdvised
  rw [hjudge, hjudge, reports_nameCase_iff hne, reports_nameCase_iff hmarked, not_not, not_not,
    toList_withUnderscore]
  rcases hlist : n.toList with _ | ⟨c, rest⟩
  · exact absurd (String.toList_eq_nil_iff.1 hlist) hne
  · have hc : c ≠ '_' := by simpa [Text.startsWith, hlist] using hn
    simpa [startsWithDigit, hlist] using mem_upperCase_iff hc rest

/-! ## Following the advice -/

theorem not_advised_respelled {advised : String → Prop} {n s : String}
    (hn : Text.startsWith '_' n = false) (hxor : Xor (advised n) (advised (withUnderscore n)))
    (hs : s ∈ [n, withUnderscore n]) (hadvised : advised s) : ¬ advised (respelled s) := by
  rcases List.mem_pair.1 hs with rfl | rfl
  · rw [respelled_of_unmarked hn]
    rcases hxor with ⟨-, hmarked⟩ | ⟨-, hplain⟩
    · exact hmarked
    · exact absurd hadvised hplain
  · rw [respelled_withUnderscore]
    rcases hxor with ⟨-, hmarked⟩ | ⟨-, hplain⟩
    · exact absurd hadvised hmarked
    · exact hplain

/-- The spelling asked for is as right in case as the one objected to, as long as a constant does
    not come to start with a digit. -/
theorem caseAdvised_of_respelled {v : VariableDeclaration} {n s : String}
    (hn : Text.startsWith '_' n = false) (hs : s ∈ [n, withUnderscore n])
    (hconstant : v.isConstant = true → n ≠ "" ∧ startsWithDigit (respelled s) = false)
    (hcase : CaseAdvised v (respelled s)) : CaseAdvised v s := by
  cases hv : v.isConstant with
  | true =>
    obtain ⟨hne, hdigit⟩ := hconstant hv
    have hiff := caseAdvised_constant_iff hv hn hne
    by_contra hright
    rcases List.mem_pair.1 hs with rfl | rfl
    · rw [respelled_of_unmarked hn] at hcase
      exact (hiff.1 hright).1 hcase
    · rw [respelled_withUnderscore] at hcase hdigit
      exact hiff.2 ⟨hright, hdigit⟩ hcase
  | false =>
    have hsame := stateVariableName_withUnderscore hv hn
    rcases List.mem_pair.1 hs with rfl | rfl
    · rwa [respelled_of_unmarked hn, CaseAdvised, hsame] at hcase
    · rwa [respelled_withUnderscore, CaseAdvised, ← hsame] at hcase

/-- **The underscore advice and the case advice agree.** Of the two spellings of a name, with the
    mark and without it, exactly one is objected to for a state variable, and exactly one for a
    function of a contract. Both have the same case findings, unless they name a constant; there the
    unmarked spelling is right iff the marked one is and no digit comes first. So taking the advice
    settles it, and brings no case finding unless it takes the mark from a constant before a
    digit. -/
theorem underscore_and_case_advice_agree (n : String) (hn : Text.startsWith '_' n = false) :
    (∀ v : VariableDeclaration, v.isStateVariable = true →
        Xor (VariableAdvised v n) (VariableAdvised v (withUnderscore n)))
      ∧ (∀ f : FunctionDefinition, f.isFree = false →
        Xor (FunctionAdvised f n) (FunctionAdvised f (withUnderscore n)))
      ∧ (∀ v : VariableDeclaration, v.isConstant = false →
        stateVariableName (v.spelled (withUnderscore n)) = stateVariableName (v.spelled n))
      ∧ (∀ f : FunctionDefinition,
        functionName (f.spelled (withUnderscore n)) = functionName (f.spelled n))
      ∧ (∀ v : VariableDeclaration, v.isConstant = true → n ≠ "" →
        (¬ CaseAdvised v n ↔ ¬ CaseAdvised v (withUnderscore n) ∧ startsWithDigit n = false))
      ∧ ∀ s ∈ [n, withUnderscore n],
        (∀ v : VariableDeclaration, v.isStateVariable = true →
          VariableAdvised v s → ¬ VariableAdvised v (respelled s))
        ∧ (∀ f : FunctionDefinition, f.isFree = false →
          FunctionAdvised f s → ¬ FunctionAdvised f (respelled s))
        ∧ (∀ v : VariableDeclaration,
          (v.isConstant = true → n ≠ "" ∧ startsWithDigit (respelled s) = false) →
          CaseAdvised v (respelled s) → CaseAdvised v s)
        ∧ (∀ f : FunctionDefinition,
          functionName (f.spelled (respelled s)) = functionName (f.spelled s)) := by
  have hvariable : ∀ v : VariableDeclaration, v.isStateVariable = true →
      Xor (VariableAdvised v n) (VariableAdvised v (withUnderscore n)) :=
    fun v hv => xor_advised_of_iff (variableAdvised_iff hv) hn
  have hfunction : ∀ f : FunctionDefinition, f.isFree = false →
      Xor (FunctionAdvised f n) (FunctionAdvised f (withUnderscore n)) :=
    fun f hf => xor_advised_of_iff (functionAdvised_iff hf) hn
  refine ⟨hvariable, hfunction, fun v hv => stateVariableName_withUnderscore hv hn,
    fun f => functionName_withUnderscore f hn, fun v hv => caseAdvised_constant_iff hv hn,
    fun s hs => ⟨?_, ?_, ?_, ?_⟩⟩
  · intro v hv
    exact not_advised_respelled hn (hvariable v hv) hs
  · intro f hf
    exact not_advised_respelled hn (hfunction f hf) hs
  · intro v hconstant
    exact caseAdvised_of_respelled hn hs hconstant
  · intro f
    have hsame := functionName_withUnderscore f hn
    rcases List.mem_pair.1 hs with rfl | rfl
    · rw [respelled_of_unmarked hn, hsame]
    · rw [respelled_withUnderscore, hsame]

/-- A private constant `TOTAL` and an internal function of that name are both advised to take the
    mark. With it neither is objected to again, and the case of the constant stays right. -/
theorem underscore_and_case_advice_agree_total :
    let v : VariableDeclaration :=
      ⟨none, ⟨"uint", .elementary, .zero⟩, .priv, none, true, true, false, false, .zero⟩
    let f : FunctionDefinition := ⟨none, .function, .internal, false, [], [], none, .zero⟩
    Text.startsWith '_' "TOTAL" = false ∧ respelled "TOTAL" = "_TOTAL"
      ∧ VariableAdvised v "TOTAL" ∧ ¬ VariableAdvised v "_TOTAL" ∧ ¬ CaseAdvised v "_TOTAL"
      ∧ FunctionAdvised f "TOTAL" ∧ ¬ FunctionAdvised f "_TOTAL" := by
  intro v f
  have hn : Text.startsWith '_' "TOTAL" = false := by decide
  have hdigit : startsWithDigit (respelled "TOTAL") = false := by decide
  have hspelling : respelled "TOTAL" = "_TOTAL" := by decide
  have hvariable : VariableAdvised v "TOTAL" := by
    unfold VariableAdvised
    decide
  have hfunction : FunctionAdvised f "TOTAL" := by
    unfold FunctionAdvised
    decide
  have hcase : ¬ CaseAdvised v "TOTAL" := by
    unfold CaseAdvised
    decide
  obtain ⟨-, -, -, -, -, hfollow⟩ := underscore_and_case_advice_agree "TOTAL" hn
  obtain ⟨hv, hf, hsame, -⟩ := hfollow "TOTAL" (by simp)
  have hright : ¬ CaseAdvised v (respelled "TOTAL") :=
    mt (hsame v fun _ => ⟨by decide, hdigit⟩) hcase
  rw [hspelling] at hv hf hright
  exact ⟨hn, hspelling, hvariable, hv v rfl hvariable, hright, hfunction, hf f rfl hfunction⟩

/-- A public constant may be called `_1A`, and its case is right, but it is advised to drop the
    mark, and `1A` is not in upper case. -/
theorem underscore_advice_against_case_advice :
    let v : VariableDeclaration :=
      ⟨none, ⟨"uint256", .elementary, .zero⟩, .pub, none, true, true, false, false, .zero⟩
    Text.startsWith '_' "1A" = false ∧ withUnderscore "1A" = "_1A"
      ∧ Lexer.isName "_1A".toList = true
      ∧ VariableAdvised v "_1A" ∧ ¬ CaseAdvised v "_1A"
      ∧ respelled "_1A" = "1A" ∧ CaseAdvised v "1A" := by
  intro v
  unfold VariableAdvised CaseAdvised
  exact ⟨by decide, by decide, by decide +kernel, by decide, by decide, by decide, by decide⟩

end Check

end SolidityLint
