import SolidityLint.Proofs.Pass
import SolidityLint.Proofs.WithoutOthers

set_option autoImplicit false

/-! # Parts that no rule inspects are transparent

One more part that no rule inspects, anywhere among the members of a contract or the statements of a
block, changes no finding and no order. A check that looks at a list of members or statements passes
over such parts, so a node and its common form have the same findings
(`Engine.findings_withoutOthers`); meeting such a part itself changes nothing
(`Engine.visit_of_isOther`). Along the walk this gives that a pass over a tree finds what a pass
over its common form finds (`Engine.run_withoutOthers`). -/

namespace SolidityLint

open Ast

/-! ## The checks pass over them -/

namespace Check

/-! ### Items, members and functions -/

theorem layoutOrderFrom_withoutOthers (position : Nat) (previous : Option LayoutCategory)
    (items : List TopLevelItem) :
    layoutOrderFrom position previous (items.map TopLevelItem.withoutOthers)
      = layoutOrderFrom position previous items := by
  induction items generalizing position previous with
  | nil => rfl
  | cons item rest ih =>
    have hcategory : LayoutCategory.ofItem? item.withoutOthers = LayoutCategory.ofItem? item := by
      cases item <;> rfl
    have hloc : item.withoutOthers.toNode.loc = item.toNode.loc := by
      cases item <;> rfl
    have hkind : item.withoutOthers.toNode.kindName = item.toNode.kindName := by
      cases item <;> rfl
    have hmessage : itemUnknownMessage position item.withoutOthers.toNode
        = itemUnknownMessage position item.toNode := by
      unfold itemUnknownMessage
      rw [hkind]
    simp only [List.map_cons, layoutOrderFrom_cons, hcategory, hloc, hmessage, ih]

theorem contractsOf_withoutOthers (u : SourceUnit) :
    contractsOf u.withoutOthers = (contractsOf u).map ContractDefinition.withoutOthers := by
  unfold contractsOf
  rw [List.map_filterMap]
  show (u.items.map TopLevelItem.withoutOthers).filterMap _ = _
  rw [List.filterMap_map]
  refine List.filterMap_congr fun i _ => ?_
  cases i <;> rfl

theorem blankLinesAmong_withoutOthers : ∀ contracts : List ContractDefinition,
    blankLinesAmong (contracts.map ContractDefinition.withoutOthers) = blankLinesAmong contracts
  | [] | [_] => rfl
  | previous :: next :: rest => by
    have ih := blankLinesAmong_withoutOthers (next :: rest)
    rw [List.map_cons] at ih
    rw [List.map_cons, List.map_cons, blankLinesAmong_cons_cons, blankLinesAmong_cons_cons, ih]
    rfl

/-- A member without a category is passed over, wherever it stands. -/
theorem contractOrderFrom_withoutOthers (contract : String) (previous : Option MemberCategory)
    (members : List Member) :
    contractOrderFrom contract previous
        ((members.filter fun m => !m.isOther).map Member.withoutOthers)
      = contractOrderFrom contract previous members := by
  induction members generalizing previous with
  | nil => rfl
  | cons member rest ih =>
    cases hother : member.isOther with
    | true =>
      have hcategory : MemberCategory.ofMember? member = none := by
        cases member with
        | other node => rfl
        | _ => exact absurd hother (by simp [Member.isOther])
      simp only [contractOrderFrom_cons, hcategory, List.filter_cons, hother, ← ih]
      rfl
    | false =>
      have hcategory : MemberCategory.ofMember? member.withoutOthers
          = MemberCategory.ofMember? member := by
        cases member <;> rfl
      have hloc : member.withoutOthers.toNode.loc = member.toNode.loc := by
        cases member <;> rfl
      simp only [List.filter_cons, hother, Bool.not_false, if_true, List.map_cons,
        contractOrderFrom_cons, hcategory, hloc, ih]

theorem functions_withoutOthers (c : ContractDefinition) :
    c.withoutOthers.functions = c.functions.map FunctionDefinition.withoutOthers := by
  unfold ContractDefinition.functions
  rw [List.map_filterMap]
  show ((c.members.filter fun m => !m.isOther).map Member.withoutOthers).filterMap _ = _
  rw [List.filterMap_map, List.filterMap_filter]
  refine List.filterMap_congr fun m _ => ?_
  cases m <;> rfl

theorem functionOrder_withoutOthers (c : ContractDefinition) :
    functionOrder c.withoutOthers = functionOrder c := by
  rw [functionOrder_eq, functionOrder_eq, functions_withoutOthers, List.map_map]
  rfl

/-! ### Statements of a body -/

theorem assignedName_withoutOthers (s : Statement) :
    assignedName s.withoutOthers = assignedName s := by
  cases s <;> rfl

theorem assignedName_of_isOther {s : Statement} (h : s.isOther = true) : assignedName s = none := by
  cases s with
  | other node => rfl
  | _ => exact absurd h (by simp [Statement.isOther])

theorem stateWrite_withoutOthers (registry : Registry) (f : FunctionDefinition) (s : Statement) :
    stateWrite registry f.withoutOthers s.withoutOthers = stateWrite registry f s := by
  rw [stateWrite_eq, stateWrite_eq, assignedName_withoutOthers, s.loc_withoutOthers]
  rfl

theorem flatMap_stateWrite_keepInspected (registry : Registry) (f : FunctionDefinition)
    (statements : List Statement) :
    (Statement.keepInspected statements).flatMap (stateWrite registry f.withoutOthers)
      = statements.flatMap (stateWrite registry f) := by
  induction statements with
  | nil => rfl
  | cons s rest ih =>
    rw [Statement.keepInspected]
    cases hother : s.isOther with
    | true =>
      have hwrite : stateWrite registry f s = [] := by
        rw [stateWrite_eq, assignedName_of_isOther hother]
      simp [ih, hwrite]
    | false => simp [ih, stateWrite_withoutOthers]

/-- An uninspected statement makes no call, so the first call stays where it is. -/
theorem afterLowLevelCall_keepInspected (statements : List Statement) :
    afterLowLevelCall (Statement.keepInspected statements)
      = Statement.keepInspected (afterLowLevelCall statements) := by
  induction statements with
  | nil => rfl
  | cons s rest ih =>
    rw [Statement.keepInspected, afterLowLevelCall]
    cases hother : s.isOther with
    | true =>
      have hcall := (Node.statement s).containsLowLevelCall_of_isOther hother
      simp [hcall, ih]
    | false =>
      have hcall : (Node.statement s.withoutOthers).containsLowLevelCall
          = (Node.statement s).containsLowLevelCall :=
        (Node.statement s).containsLowLevelCall_withoutOthers
      rw [if_neg (by simp), afterLowLevelCall, hcall, ih]
      split <;> rfl

theorem any_assignedName_keepInspected (statements : List Statement) (name : String) :
    (Statement.keepInspected statements).any (fun s => assignedName s == some name)
      = statements.any fun s => assignedName s == some name := by
  induction statements with
  | nil => rfl
  | cons s rest ih =>
    rw [Statement.keepInspected]
    cases hother : s.isOther with
    | true => simp [ih, assignedName_of_isOther hother]
    | false => simp [ih, assignedName_withoutOthers]

section Bodies

variable (f : FunctionDefinition)

theorem body_withoutOthers : f.withoutOthers.body = f.body.map Block.withoutOthers := rfl

theorem reentrancy_withoutOthers (registry : Registry) :
    reentrancy registry f.withoutOthers = reentrancy registry f := by
  rw [reentrancy_eq, reentrancy_eq, body_withoutOthers]
  cases f.body with
  | none => rfl
  | some body =>
    show (afterLowLevelCall (Statement.keepInspected body.statements)).flatMap _ = _
    rw [afterLowLevelCall_keepInspected, flatMap_stateWrite_keepInspected]

theorem calldataParameters_withoutOthers :
    calldataParameters f.withoutOthers = calldataParameters f := by
  rw [calldataParameters_eq, calldataParameters_eq, body_withoutOthers]
  cases f.body with
  | none => rfl
  | some body =>
    have hassigned (name : String) :
        isAssignedIn body.withoutOthers name = isAssignedIn body name :=
      congrArg (!name.isEmpty && ·) (any_assignedName_keepInspected body.statements name)
    simp only [Option.map_some, hassigned]
    rfl

theorem stateVariableCaching_withoutOthers (registry : Registry) :
    stateVariableCaching registry f.withoutOthers = stateVariableCaching registry f := by
  rw [stateVariableCaching_eq, stateVariableCaching_eq, body_withoutOthers]
  cases f.body with
  | none => rfl
  | some body =>
    have hcount (name : String) : (Node.body body.withoutOthers).countIdentifier name
        = (Node.body body).countIdentifier name :=
      (Node.body body).countIdentifier_withoutOthers name
    refine List.flatMap_congr fun name _ => ?_
    unfold cacheName
    rw [hcount]
    rfl

end Bodies

end Check

/-! ## The pass -/

namespace Engine

theorem declaredNames_withoutOthers (n : Node) :
    declaredNames n.withoutOthers = declaredNames n := by
  cases n <;> rfl

theorem flatMap_ofFunction_withoutOthers (options : Options) (registry : Registry)
    (f : FunctionDefinition) :
    (Inspection.ofFunction f.withoutOthers).flatMap (Inspection.run options registry)
      = (Inspection.ofFunction f).flatMap (Inspection.run options registry) := by
  unfold Inspection.ofFunction
  rw [List.flatMap_append, List.flatMap_append]
  congr 1
  · have hconstructor : f.withoutOthers.isConstructor = f.isConstructor := rfl
    rw [hconstructor]
    split <;> rfl
  · simp only [List.flatMap_cons, Inspection.run, Check.calldataParameters_withoutOthers,
      Check.stateVariableCaching_withoutOthers, Check.reentrancy_withoutOthers]
    rfl

/-- **A node and its common form have the same findings.** -/
theorem findings_withoutOthers (options : Options) (registry : Registry) (n : Node) :
    findings options registry n.withoutOthers = findings options registry n := by
  cases n with
  | sourceUnit u =>
    have hlayout : Check.layoutOrder u.withoutOthers = Check.layoutOrder u :=
      Check.layoutOrderFrom_withoutOthers 0 none u.items
    have hblank : Check.blankLines u.withoutOthers = Check.blankLines u := by
      show Check.blankLinesAmong (Check.contractsOf u.withoutOthers) = _
      rw [Check.contractsOf_withoutOthers, Check.blankLinesAmong_withoutOthers]
      rfl
    simp only [findings_eq, Node.withoutOthers, Inspection.ofNode, List.flatMap_cons,
      Inspection.run, hlayout, hblank]
  | contract c =>
    have horder : Check.contractOrder c.withoutOthers = Check.contractOrder c :=
      Check.contractOrderFrom_withoutOthers c.name none c.members
    simp only [findings_eq, Node.withoutOthers, Inspection.ofNode, List.flatMap_cons,
      Inspection.run, horder, Check.functionOrder_withoutOthers]
    rfl
  | function f =>
    rw [findings_eq, findings_eq]
    exact flatMap_ofFunction_withoutOthers options registry f
  | statement s => cases s <;> rfl
  | _ => rfl

theorem visit_withoutOthers (options : Options) (c : Context) (n : Node) :
    visit options c n.withoutOthers = visit options c n := by
  rw [visit_eq, visit_registry, emitted_eq_findings, declaredNames_withoutOthers,
    findings_withoutOthers, ← emitted_eq_findings, ← visit_registry, ← visit_eq]

/-- Meeting an uninspected part changes nothing. -/
theorem visit_of_isOther (options : Options) (c : Context) {n : Node} (h : n.isOther = true) :
    visit options c n = c := by
  have hdeclared : declaredNames n = [] := by
    cases n with
    | stateVariable d => exact absurd h (by simp [Node.isOther])
    | _ => rfl
  have hfindings : findings options c.registry n = [] := by
    cases n with
    | other node => rfl
    | statement s =>
      cases s with
      | other node => rfl
      | _ => exact absurd h (by simp [Node.isOther, Statement.isOther])
    | _ => exact absurd h (by simp [Node.isOther])
  rw [visit_of_declaredNames_eq_nil options c hdeclared, hfindings, List.append_nil]

theorem foldl_visit_inspected (options : Options) (c : Context) (nodes : List Node) :
    (Node.inspected nodes).foldl (visit options) c = nodes.foldl (visit options) c := by
  induction nodes generalizing c with
  | nil => rfl
  | cons n rest ih =>
    rw [List.foldl_cons, ← ih]
    cases h : n.isOther with
    | true => simp [Node.inspected, h, visit_of_isOther options c h]
    | false => simp [Node.inspected, h]

/-- A pass over a tree finds what a pass over its common form finds. -/
theorem run_withoutOthers (options : Options) (u : SourceUnit) :
    run options u.withoutOthers = run options u := by
  have hvisit : (fun c n => visit options c (Node.withoutOthers n)) = visit options := by
    funext c n
    exact visit_withoutOthers options c n
  have hwalk : Node.inspected (Node.sourceUnit u.withoutOthers).walk
      = (Node.inspected (Node.sourceUnit u).walk).map Node.withoutOthers :=
    (Node.sourceUnit u).inspectedWalk_withoutOthers
  unfold run
  rw [← foldl_visit_inspected, hwalk, List.foldl_map, hvisit, foldl_visit_inspected]

/-- **Uninspected parts are transparent.** One more uninspected member in a contract, or one more
    uninspected statement in a block at any depth, leaves the findings of a pass and their order as
    they are. -/
theorem run_gainsOther (options : Options) {u v : SourceUnit} (h : u.GainsOther v) :
    run options v = run options u := by
  rw [← run_withoutOthers, h.withoutOthers_eq, run_withoutOthers]

/-- A contract `Vault { uint total; function pay() external {…} }` with the body
    `target.call(); if (ok) {…} total = 1;` and these statements in the branch. -/
def payingVault (branch : List Statement) : SourceUnit :=
  let here : Location := .zero
  let total : VariableDeclaration :=
    ⟨some "total", ⟨"uint", .elementary, here⟩, .pub, none, true, false, false, false, here⟩
  let call : Expression :=
    .functionCall (.memberAccess (.identifier "target" here) "call" here) [] [] here
  let write : Expression :=
    .binaryOperation "=" (.identifier "total" here) (.literal .number "1" none here) here
  let statements : List Statement :=
    [.expression call here,
      .ifElse (.identifier "ok" here) (.block branch true here) none here,
      .expression write here]
  ⟨[.contract ⟨"Vault", .contract, [],
    [.stateVariable ⟨[total], none, here⟩,
      .function ⟨some "pay", .function, .external, false, [], [],
        some ⟨statements, false, here⟩, here⟩], here⟩], here⟩

/-- The call and the write after it are found with and without assembly in the branch. -/
theorem run_gainsOther_payingVault :
    (payingVault []).GainsOther (payingVault [.other ⟨"InlineAssembly", .zero⟩])
    ∧ (run ⟨false⟩ (payingVault [])).map (·.ruleId)
      = ["SOL-G009", "SOL-S001", "SOL-S004"]
    ∧ run ⟨false⟩ (payingVault [.other ⟨"InlineAssembly", .zero⟩])
      = run ⟨false⟩ (payingVault []) := by
  have hgains : (payingVault []).GainsOther (payingVault [.other ⟨"InlineAssembly", .zero⟩]) := by
    refine .inItem [] [] .zero (.contract (.inMember ⟨"Vault", .contract, [], [], .zero⟩ [_] []
      (.function (.body ⟨some "pay", .function, .external, false, [], [], none, .zero⟩ ?_))))
    exact .inBlock [_] [_] false .zero (.ifTrue _ none .zero (.block [] [] _ true .zero))
  refine ⟨hgains, ?_, run_gainsOther ⟨false⟩ hgains⟩
  decide +kernel

end Engine

end SolidityLint
