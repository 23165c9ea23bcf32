import SolidityLint.Proofs.Pass

set_option autoImplicit false

/-! # Which rules a check reports

Every check builds its findings from a few fixed rules of the catalogue. `Inspection.rules` lists
them for each inspection, and `Inspection.fromRules_run` is the one fact that later proofs use: a
finding of an inspection is a finding of one of its rules. So the findings of a single rule in a
pass can be computed from the inspections that may report it (`Engine.filter_findings`), without
looking at any other check.

A finding of the naming rule may carry the page for its kind of name in place of the rule's own
reference; `Diagnostic.IsOf` says so once. -/

namespace SolidityLint

open Ast

/-! ## Findings of a rule -/

/-- `d` is a finding of `rule`: it has the rule's identifier and severity, and the rule's page,
    unless the rule is the naming rule, whose findings have the page for their kind of name or none.
    -/
def Diagnostic.IsOf (d : Diagnostic) (rule : Rule) : Prop :=
  d.ruleId = rule.id ∧ d.severity = rule.severity
    ∧ (d.reference = rule.reference
      ∨ rule = Rule.nameCase ∧ ∃ kind : NamingPage, d.reference = kind.reference)

theorem Rule.diagnostic_isOf (rule : Rule) (message : String) (loc : Location) :
    (rule.diagnostic message loc).IsOf rule :=
  ⟨rfl, rfl, .inl rfl⟩

theorem Rule.skipped_isOf (rule : Rule) (loc : Location) :
    (rule.skipped loc).IsOf Rule.ruleSkipped :=
  Rule.diagnostic_isOf ..

/-! ## Properties of all findings -/

/-- All of these have the property. Checks put their findings together from a few list operations,
    and each keeps what holds of all findings. -/
def Every (P : Diagnostic → Prop) (found : List Diagnostic) : Prop :=
  ∀ d ∈ found, P d

namespace Every

variable {P : Diagnostic → Prop} {found more : List Diagnostic}

theorem nil : Every P [] := by
  intro d hd
  exact absurd hd (by simp)

theorem cons {d : Diagnostic} (hd : P d) (h : Every P found) : Every P (d :: found) := by
  intro x hx
  rcases List.mem_cons.1 hx with rfl | hx
  · exact hd
  · exact h x hx

theorem single {d : Diagnostic} (hd : P d) : Every P [d] :=
  cons hd nil

theorem append (h : Every P found) (h' : Every P more) : Every P (found ++ more) := by
  intro d hd
  rcases List.mem_append.1 hd with hd | hd
  · exact h d hd
  · exact h' d hd

theorem flatMap {α : Type} {xs : List α} {f : α → List Diagnostic}
    (h : ∀ x ∈ xs, Every P (f x)) : Every P (xs.flatMap f) := by
  intro d hd
  obtain ⟨x, hx, hd⟩ := List.mem_flatMap.1 hd
  exact h x hx d hd

theorem replicate {d : Diagnostic} (hd : P d) (n : Nat) : Every P (List.replicate n d) := by
  intro x hx
  rw [List.eq_of_mem_replicate hx]
  exact hd

/-- Findings under a condition. -/
theorem ite {c : Prop} [Decidable c] (h : Every P found) (h' : Every P more) :
    Every P (if c then found else more) := by
  split
  · exact h
  · exact h'

end Every

/-- All of these are findings of one of `rules`. -/
def FromRules (rules : List Rule) (found : List Diagnostic) : Prop :=
  ∀ d ∈ found, ∃ rule ∈ rules, d.IsOf rule

namespace FromRules

variable {rules : List Rule} {found more : List Diagnostic}

theorem nil : FromRules rules [] :=
  Every.nil

theorem cons {d : Diagnostic} {rule : Rule} (hmem : rule ∈ rules) (hd : d.IsOf rule)
    (h : FromRules rules found) : FromRules rules (d :: found) :=
  Every.cons ⟨rule, hmem, hd⟩ h

theorem single {rule : Rule} {message : String} {loc : Location} (hmem : rule ∈ rules) :
    FromRules rules [rule.diagnostic message loc] :=
  cons hmem (rule.diagnostic_isOf message loc) nil

theorem skipped {rule : Rule} {loc : Location} (hmem : Rule.ruleSkipped ∈ rules) :
    FromRules rules [rule.skipped loc] :=
  cons hmem (rule.skipped_isOf loc) nil

theorem append (h : FromRules rules found) (h' : FromRules rules more) :
    FromRules rules (found ++ more) :=
  Every.append h h'

theorem flatMap {α : Type} {xs : List α} {f : α → List Diagnostic}
    (h : ∀ x ∈ xs, FromRules rules (f x)) : FromRules rules (xs.flatMap f) :=
  Every.flatMap h

theorem replicate {rule : Rule} {message : String} {loc : Location} (hmem : rule ∈ rules)
    (n : Nat) : FromRules rules (List.replicate n (rule.diagnostic message loc)) :=
  Every.replicate ⟨rule, hmem, rule.diagnostic_isOf message loc⟩ n

theorem ite {c : Prop} [Decidable c] (h : FromRules rules found) (h' : FromRules rules more) :
    FromRules rules (if c then found else more) :=
  Every.ite h h'

end FromRules

/-! ## One lemma for each check

Checks that are one conditional finding, or one for each part of a list, need none. -/

namespace Check

/-- The rules that the check of a name reports. -/
def namingRules : List Rule := [Rule.ruleSkipped, Rule.shortName, Rule.nameCase]

section Naming

variable {kind name : String} {style : CaseStyle} {loc : Location}

theorem fromRules_judgeName {reference : Option String}
    (href : reference = none ∨ ∃ page : NamingPage, reference = page.reference) :
    FromRules namingRules (judgeName kind name style reference loc) := by
  rw [judgeName_eq]
  refine .ite (.skipped (by simp [namingRules])) (.append ?_ ?_)
  · exact .ite (.single (by simp [namingRules])) .nil
  · have hname : Rule.nameCase ∈ namingRules := by simp [namingRules]
    exact .ite .nil (.cons hname ⟨rfl, rfl, href.imp id fun h => ⟨rfl, h⟩⟩ .nil)

theorem fromRules_judgeName_page (page : NamingPage) :
    FromRules namingRules (judgeName kind name style page.reference loc) :=
  fromRules_judgeName (.inr ⟨page, rfl⟩)

theorem fromRules_stateVariableName (v : VariableDeclaration) :
    FromRules namingRules (stateVariableName v) := by
  rw [stateVariableName_eq]
  split
  · exact .skipped (by simp [namingRules])
  · exact .ite (fromRules_judgeName (.inl rfl)) (fromRules_judgeName_page .stateVariable)

theorem fromRules_localVariableName (v : VariableDeclaration) :
    FromRules namingRules (localVariableName v) := by
  rw [localVariableName_eq]
  split
  · exact .nil
  · exact .ite (fromRules_judgeName (.inl rfl)) (fromRules_judgeName_page .localVariable)

theorem fromRules_parameterName (v : VariableDeclaration) :
    FromRules namingRules (parameterName v) := by
  rw [parameterName_eq]
  split
  · exact .nil
  · exact fromRules_judgeName_page .functionParameter

end Naming

theorem fromRules_layoutOrderFrom (position : Nat) (previous : Option LayoutCategory)
    (items : List TopLevelItem) :
    FromRules [Rule.layoutOrder, Rule.unknownTopLevel]
      (layoutOrderFrom position previous items) := by
  induction items generalizing position previous with
  | nil => exact .nil
  | cons item rest ih =>
    rw [layoutOrderFrom_cons]
    split
    · exact .single (by simp)
    · split
      · exact .ite (.single (by simp)) (ih _ _)
      · exact ih _ _

theorem fromRules_contractOrderFrom (contract : String) (previous : Option MemberCategory)
    (members : List Member) :
    FromRules [Rule.contractOrder] (contractOrderFrom contract previous members) := by
  induction members generalizing previous with
  | nil => exact .nil
  | cons member rest ih =>
    rw [contractOrderFrom_cons]
    split
    · exact ih _
    · split
      · exact .ite (.single (by simp)) (ih _)
      · exact ih _

theorem fromRules_blankLinesAmong (contracts : List ContractDefinition) :
    FromRules [Rule.blankLines] (blankLinesAmong contracts) := by
  induction contracts with
  | nil => exact .nil
  | cons previous rest ih =>
    cases rest with
    | nil => exact .nil
    | cons next rest =>
      rw [blankLinesAmong_cons_cons, blankLinesBetween_eq]
      exact .append (.ite .nil (.single (by simp))) ih

theorem fromRules_stateVariableUnderscore (v : VariableDeclaration) :
    FromRules [Rule.stateVariableUnderscore] (stateVariableUnderscore v) := by
  rw [stateVariableUnderscore_eq]
  split
  · exact .nil
  · exact .ite .nil (.ite (.single (by simp)) (.ite (.single (by simp)) .nil))

theorem fromRules_functionUnderscore (f : FunctionDefinition) :
    FromRules [Rule.functionUnderscore] (functionUnderscore f) := by
  rw [functionUnderscore_eq]
  split
  · exact .nil
  · exact .ite .nil (.ite (.single (by simp)) (.ite (.single (by simp)) .nil))

theorem fromRules_stateWrite (registry : Registry) (f : FunctionDefinition) (s : Statement) :
    FromRules [Rule.reentrancy] (stateWrite registry f s) := by
  rw [stateWrite_eq]
  split
  · exact .ite (.single (by simp)) .nil
  · exact .nil

theorem fromRules_reentrancy (registry : Registry) (f : FunctionDefinition) :
    FromRules [Rule.reentrancy] (reentrancy registry f) := by
  rw [reentrancy_eq]
  split
  · exact .nil
  · exact .flatMap fun s _ => fromRules_stateWrite registry f s

theorem fromRules_declaredCallResult (declared : List (Option VariableDeclaration))
    (initialValue : Option Expression) (loc : Location) :
    FromRules [Rule.uncheckedCall] (declaredCallResult declared initialValue loc) := by
  rw [declaredCallResult_eq]
  split
  · exact .ite (.single (by simp)) .nil
  · exact .nil

theorem fromRules_discardedCallResult (e : Expression) :
    FromRules [Rule.uncheckedCall] (discardedCallResult e) := by
  rw [discardedCallResult_eq]
  split
  · split
    · exact .ite (.single (by simp)) .nil
    · exact .nil
  · exact .nil

theorem fromRules_unsafeGlobal (base : Expression) (member : String) (loc : Location) :
    FromRules [Rule.txOrigin, Rule.blockTimestamp] (unsafeGlobal base member loc) := by
  rw [unsafeGlobal_eq]
  split
  · exact .single (by simp)
  · exact .single (by simp)
  · exact .nil

theorem fromRules_messageLength (message : Option Expression) :
    FromRules [Rule.customError, Rule.longRevertString, Rule.ruleSkipped]
      (messageLength message) := by
  rw [messageLength_eq]
  split
  · exact .nil
  · exact .ite (.single (by simp)) .nil
  · exact .skipped (by simp)

theorem fromRules_customError (e : Expression) :
    FromRules [Rule.customError, Rule.longRevertString, Rule.ruleSkipped] (customError e) := by
  rw [customError_eq]
  split
  · split
    · exact .cons (by simp) (Rule.diagnostic_isOf ..) (fromRules_messageLength _)
    · exact .ite .nil (.cons (by simp) (Rule.diagnostic_isOf ..) (fromRules_messageLength _))
    · exact .nil
  · exact .nil

theorem fromRules_stateVariableCaching (registry : Registry) (f : FunctionDefinition) :
    FromRules [Rule.cacheStateVariable] (stateVariableCaching registry f) := by
  rw [stateVariableCaching_eq]
  split
  · exact .nil
  · exact .flatMap fun name _ => .ite (.single (by simp)) .nil

theorem fromRules_calldataParameters (f : FunctionDefinition) :
    FromRules [Rule.calldataParameter] (calldataParameters f) := by
  rw [calldataParameters_eq]
  split
  · exact .nil
  · exact .flatMap fun v _ => .ite (.single (by simp)) .nil

theorem fromRules_loopLengthCaching (registry : Registry) (condition : Option Expression)
    (loc : Location) :
    FromRules [Rule.cacheArrayLength] (loopLengthCaching registry condition loc) := by
  rw [loopLengthCaching_eq]
  split
  · exact .ite (.single (by simp)) .nil
  · exact .nil

theorem fromRules_increment (e : Expression) :
    FromRules [Rule.incrementIdiom] (increment e) := by
  rw [increment_eq]
  split
  · exact .single (by simp)
  · exact .nil

theorem fromRules_comparisonOperator (legacy : Bool) (operator : String) (loc : Location) :
    FromRules [Rule.strictComparison, Rule.shortCircuit]
      (comparisonOperator legacy operator loc) := by
  rw [comparisonOperator_eq, strictComparison_eq]
  refine .append ?_ (.replicate (by simp) _)
  cases strictComparison? operator with
  | none => exact .nil
  | some better => exact .single (by simp)

end Check

/-! ## The rules of an inspection -/

namespace Inspection

/-- The rules that an inspection reports. -/
def rules : Inspection → List Rule
  | layoutOrder _ => [Rule.layoutOrder, Rule.unknownTopLevel]
  | blankLines _ => [Rule.blankLines]
  | contractOrder _ => [Rule.contractOrder]
  | functionOrder _ => [Rule.functionOrder]
  | contractName _ | stateVariableName _ | functionName _ | parameterNames _ | localVariableNames _
  | structName _ | eventName _ | enumName _ | modifierName _ => Check.namingRules
  | stateVariableVisibility _ => [Rule.stateVariableVisibility]
  | stateVariableUnderscore _ => [Rule.stateVariableUnderscore]
  | typeAbbreviation _ => [Rule.typeAbbreviation]
  | functionVisibility _ => [Rule.functionVisibility]
  | functionUnderscore _ => [Rule.functionUnderscore]
  | reentrancy _ => [Rule.reentrancy]
  | stateVariableCaching _ => [Rule.cacheStateVariable]
  | calldataParameters _ => [Rule.calldataParameter]
  | namedReturns _ => [Rule.namedReturn]
  | declaredCallResult .. | discardedCallResult _ => [Rule.uncheckedCall]
  | indexedEvents _ => [Rule.indexedEvent]
  | unsafeGlobal .. => [Rule.txOrigin, Rule.blockTimestamp]
  | customError _ => [Rule.customError, Rule.longRevertString, Rule.ruleSkipped]
  | loopLengthCaching .. => [Rule.cacheArrayLength]
  | increment _ => [Rule.incrementIdiom]
  | comparisonOperator .. => [Rule.strictComparison, Rule.shortCircuit]
  | erc721Inheritance _ => [Rule.useErc1155]

/-- **Every finding of an inspection is a finding of one of its rules.** -/
theorem fromRules_run (options : Options) (registry : Registry) (i : Inspection) :
    FromRules i.rules (i.run options registry) := by
  cases i with
  | layoutOrder u => exact Check.fromRules_layoutOrderFrom 0 none u.items
  | blankLines u => exact Check.fromRules_blankLinesAmong (Check.contractsOf u)
  | contractOrder c => exact Check.fromRules_contractOrderFrom c.name none c.members
  | functionOrder c =>
    rw [run, Check.functionOrder_eq]
    exact .ite .nil (.single (by simp [rules]))
  | contractName c => exact Check.fromRules_judgeName_page .contract
  | stateVariableVisibility d =>
    rw [run, Check.stateVariableVisibility_eq]
    exact .flatMap fun v _ => .ite (.single (by simp [rules])) .nil
  | stateVariableUnderscore v => exact Check.fromRules_stateVariableUnderscore v
  | stateVariableName v => exact Check.fromRules_stateVariableName v
  | typeAbbreviation v =>
    rw [run, Check.typeAbbreviation_eq]
    exact .ite (.single (by simp [rules])) .nil
  | functionVisibility f =>
    rw [run, Check.functionVisibility_eq]
    exact .ite (.single (by simp [rules])) .nil
  | functionUnderscore f => exact Check.fromRules_functionUnderscore f
  | functionName f =>
    rw [run, Check.functionName_eq]
    exact .ite (Check.fromRules_judgeName_page .function) .nil
  | reentrancy f => exact Check.fromRules_reentrancy registry f
  | stateVariableCaching f => exact Check.fromRules_stateVariableCaching registry f
  | calldataParameters f => exact Check.fromRules_calldataParameters f
  | namedReturns f =>
    rw [run, Check.namedReturns_eq]
    exact .flatMap fun v _ => .ite (.single (by simp [rules])) .nil
  | parameterNames parameters =>
    rw [run, Check.parameterNames_eq]
    exact .flatMap fun v _ => Check.fromRules_parameterName v
  | localVariableNames declared =>
    rw [run, Check.localVariableNames_eq]
    exact .flatMap fun v _ => Check.fromRules_localVariableName v
  | declaredCallResult declared initialValue loc =>
    exact Check.fromRules_declaredCallResult declared initialValue loc
  | structName d => exact Check.fromRules_judgeName_page .struct
  | eventName d => exact Check.fromRules_judgeName_page .event
  | indexedEvents d =>
    rw [run, Check.indexedEvents_eq]
    exact .flatMap fun v _ => .ite (.single (by simp [rules])) .nil
  | enumName d => exact Check.fromRules_judgeName_page .enum
  | modifierName d => exact Check.fromRules_judgeName_page .modifier
  | unsafeGlobal base member loc => exact Check.fromRules_unsafeGlobal base member loc
  | discardedCallResult e => exact Check.fromRules_discardedCallResult e
  | customError e => exact Check.fromRules_customError e
  | loopLengthCaching condition loc =>
    exact Check.fromRules_loopLengthCaching registry condition loc
  | increment e => exact Check.fromRules_increment e
  | comparisonOperator operator loc =>
    exact Check.fromRules_comparisonOperator options.legacyOperators operator loc
  | erc721Inheritance s =>
    rw [run, Check.erc721Inheritance_eq]
    exact .ite (.single (by simp [rules])) .nil

/-- Is one of the inspection's rules called `id`? -/
def mayReport (id : String) (i : Inspection) : Bool :=
  i.rules.any fun rule => rule.id == id

/-- The findings of the rule called `id` in an inspection. -/
def runFor (id : String) (options : Options) (registry : Registry) (i : Inspection) :
    List Diagnostic :=
  (i.run options registry).filter fun d => d.ruleId == id

theorem mayReport_of_mem_run {options : Options} {registry : Registry} {i : Inspection}
    {d : Diagnostic} (h : d ∈ i.run options registry) : i.mayReport d.ruleId = true := by
  obtain ⟨rule, hrule, hid, -⟩ := fromRules_run options registry i d h
  exact List.any_eq_true.2 ⟨rule, hrule, by simp [hid]⟩

theorem runFor_eq_nil {id : String} {i : Inspection} (h : i.mayReport id = false)
    (options : Options) (registry : Registry) : i.runFor id options registry = [] := by
  refine List.filter_eq_nil_iff.2 fun d hd hid => ?_
  have := mayReport_of_mem_run hd
  rw [eq_of_beq hid, h] at this
  exact absurd this (by simp)

/-- An inspection that has one rule reports nothing else. -/
theorem runFor_eq_run {rule : Rule} {i : Inspection} (h : i.rules = [rule])
    (options : Options) (registry : Registry) :
    i.runFor rule.id options registry = i.run options registry := by
  refine List.filter_eq_self.2 fun d hd => ?_
  obtain ⟨r, hr, hid, -⟩ := fromRules_run options registry i d hd
  rw [h, List.mem_singleton] at hr
  simp [hid, hr]

/-- The rules that only a function is checked for. -/
def functionRules : List Rule :=
  [Rule.functionVisibility, Rule.functionUnderscore, Rule.reentrancy, Rule.cacheStateVariable,
    Rule.calldataParameter, Rule.namedReturn]

theorem filter_ofNode_of_mem_functionRules {rule : Rule} (h : rule ∈ functionRules) (n : Node) :
    (ofNode n).filter (mayReport rule.id)
      = match n with
        | .function f => (ofFunction f).filter (mayReport rule.id)
        | _ => [] := by
  simp only [functionRules, List.mem_cons, List.not_mem_nil, or_false] at h
  cases n with
  | function f => rfl
  | stateVariable d =>
    have hvariable : ∀ v, [stateVariableUnderscore v, stateVariableName v].filter
        (mayReport rule.id) = [] := by
      rcases h with rfl | rfl | rfl | rfl | rfl | rfl <;> exact fun _ => rfl
    have hself : mayReport rule.id (stateVariableVisibility d) = false := by
      rcases h with rfl | rfl | rfl | rfl | rfl | rfl <;> rfl
    rw [ofNode, List.filter_cons_of_neg (by simp [hself]), List.filter_flatMap]
    simp [hvariable]
  | statement s =>
    cases s with
    | forLoop init condition update body loc =>
      rcases h with rfl | rfl | rfl | rfl | rfl | rfl <;> cases update <;> rfl
    | _ => rcases h with rfl | rfl | rfl | rfl | rfl | rfl <;> rfl
  | expression e => rcases h with rfl | rfl | rfl | rfl | rfl | rfl <;> cases e <;> rfl
  | _ => rcases h with rfl | rfl | rfl | rfl | rfl | rfl <;> rfl

end Inspection

/-! ## One rule in a pass -/

namespace Engine

/-- The findings of one rule at a node come from the inspections that may report it. -/
theorem filter_findings (id : String) (options : Options) (registry : Registry) (n : Node) :
    (findings options registry n).filter (fun d => d.ruleId == id)
      = ((Inspection.ofNode n).filter (Inspection.mayReport id)).flatMap
          (Inspection.runFor id options registry) := by
  rw [findings_eq, List.filter_flatMap]
  generalize Inspection.ofNode n = inspections
  induction inspections with
  | nil => rfl
  | cons i rest ih =>
    rw [List.flatMap_cons, ih, List.filter_cons]
    by_cases h : i.mayReport id = true
    · rw [if_pos h, List.flatMap_cons]
      rfl
    · rw [if_neg h]
      exact congrArg (· ++ _) (Inspection.runFor_eq_nil (Bool.eq_false_iff.2 h) options registry)

/-- The findings of one rule in a run, node by node. -/
theorem filter_run (id : String) (options : Options) (unit : SourceUnit) :
    (run options unit).filter (fun d => d.ruleId == id)
      = (Node.sourceUnit unit).walk.zipIdx.flatMap fun (n, i) =>
          (emitted options (registryOf ((Node.sourceUnit unit).walk.take i)) n).filter
            fun d => d.ruleId == id := by
  rw [run_eq_emittedAlong]
  exact List.filter_flatMap

end Engine

end SolidityLint
