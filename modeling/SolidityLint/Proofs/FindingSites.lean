import Mathlib.Data.List.Nodup
import SolidityLint.Proofs.Provenance

set_option autoImplicit false

/-! # Where a finding comes from

Every finding of a pass has a rule of the catalogue and a place in the file. The rule is settled by
`Inspection.fromRules_run`. For the place, `Inspection.sites` lists the locations at which an
inspection reports, and there are two lemmas: a finding of an inspection is at one of its sites
(`Inspection.allAmong_run`), and the sites of the inspections that a node calls for are locations of
nodes at or below it (`Inspection.sites_subset_of_mem_ofNode`).

The check of blank lines is the exception. It reports what is between two contracts, so that its
sites are locations of no node; only the file itself calls for it. -/

namespace SolidityLint

open Ast

/-! ## The walk below a node of the walk -/

namespace Ast.Node

theorem mem_walk_self (n : Node) : n ∈ n.walk := by
  rw [walk_eq]
  exact List.mem_cons_self ..

theorem walk_subset_of_mem_children {n c : Node} (h : c ∈ n.children) : c.walk ⊆ n.walk := by
  intro m hm
  rw [walk_eq n]
  exact List.mem_cons_of_mem _ (List.mem_flatMap.2 ⟨c, h, hm⟩)

/-- What is met below a node of the walk is met in the walk. -/
theorem walk_subset_of_mem_walk {n m : Node} (h : m ∈ n.walk) : m.walk ⊆ n.walk := by
  induction n using childInduction with
  | step n ih =>
    rw [walk_eq, List.mem_cons, List.mem_flatMap] at h
    obtain rfl | ⟨c, hc, hm⟩ := h
    · exact List.Subset.refl _
    · exact List.Subset.trans (ih c hc hm) (walk_subset_of_mem_children hc)

/-- The locations of the nodes at and below `n`. -/
def sites (n : Node) : List Location :=
  n.walk.map loc

theorem loc_mem_sites (n : Node) : n.loc ∈ n.sites :=
  List.mem_map_of_mem (mem_walk_self n)

theorem sites_subset_of_mem_children {n c : Node} (h : c ∈ n.children) : c.sites ⊆ n.sites :=
  List.map_subset _ (walk_subset_of_mem_children h)

theorem loc_mem_sites_of_mem_children {n c : Node} (h : c ∈ n.children) : c.loc ∈ n.sites :=
  sites_subset_of_mem_children h (loc_mem_sites c)

/-! A file is below no other node. -/

theorem sourceUnit_notMem_children (u : SourceUnit) (n : Node) : sourceUnit u ∉ n.children := by
  intro h
  cases n with
  | sourceUnit v =>
    obtain ⟨item, -, hitem⟩ := List.mem_map.1 h
    cases item <;> cases hitem
  | contract c =>
    rcases List.mem_append.1 h with h | h
    · obtain ⟨base, -, hbase⟩ := List.mem_map.1 h
      cases hbase
    · obtain ⟨member, -, hmember⟩ := List.mem_map.1 h
      cases member <;> cases hmember
  | statement s => cases s <;> simp [children, Statement.children] at h
  | _ => simp [children] at h

theorem eq_of_sourceUnit_mem_walk {u : SourceUnit} {n : Node} (h : sourceUnit u ∈ n.walk) :
    n = sourceUnit u := by
  induction n using childInduction with
  | step n ih =>
    rw [walk_eq, List.mem_cons, List.mem_flatMap] at h
    obtain h | ⟨c, hc, hu⟩ := h
    · exact h.symm
    · rw [ih c hc hu] at hc
      exact absurd hc (sourceUnit_notMem_children u n)

end Ast.Node

/-! ## Neighbours among the contracts of a file -/

/-- `next` is the first contract after `previous` at the top level of the file. -/
def Ast.SourceUnit.NextContract (u : SourceUnit) (previous next : ContractDefinition) : Prop :=
  ∃ before between after,
    u.items = before ++ .contract previous :: (between ++ .contract next :: after)
      ∧ ∀ c, .contract c ∉ between

namespace Check

/-- What is between two contracts. -/
def gap (previous next : ContractDefinition) : Location :=
  ⟨previous.loc.stop, next.loc.start⟩

/-- What is between the neighbours in a list of contracts. -/
def gaps : List ContractDefinition → List Location
  | previous :: next :: rest => gap previous next :: gaps (next :: rest)
  | _ => []

theorem of_mem_gaps {contracts : List ContractDefinition} {loc : Location}
    (h : loc ∈ gaps contracts) :
    ∃ before previous next after, contracts = before ++ previous :: next :: after
      ∧ loc = gap previous next := by
  fun_induction gaps contracts with
  | case1 previous next rest ih =>
    rcases List.mem_cons.1 h with rfl | h
    · exact ⟨[], previous, next, rest, rfl, rfl⟩
    · obtain ⟨before, a, b, after, hcut, hloc⟩ := ih h
      exact ⟨previous :: before, a, b, after, by rw [hcut, List.cons_append], hloc⟩
  | case2 => cases h

/-- Neighbours in the list of contracts are neighbours in the file, whatever stands between. -/
theorem nextContract_of_contractsOf {u : SourceUnit} {before after : List ContractDefinition}
    {previous next : ContractDefinition}
    (h : contractsOf u = before ++ previous :: next :: after) : u.NextContract previous next := by
  unfold contractsOf at h
  obtain ⟨first, rest, hitems, -, hrest⟩ := List.filterMap_eq_append_iff.1 h
  obtain ⟨start, a, middle, rfl, -, ha, hmiddle⟩ := List.filterMap_eq_cons_iff.1 hrest
  obtain ⟨between, b, last, rfl, hbetween, hb, -⟩ := List.filterMap_eq_cons_iff.1 hmiddle
  have hprevious : a = .contract previous := by
    cases a <;> cases ha
    rfl
  have hnext : b = .contract next := by
    cases b <;> cases hb
    rfl
  refine ⟨first ++ start, between, last, ?_, ?_⟩
  · rw [hitems, hprevious, hnext, List.append_assoc]
  · intro c hc
    cases hbetween _ hc

theorem nextContract_of_mem_gaps {u : SourceUnit} {loc : Location}
    (h : loc ∈ gaps (contractsOf u)) :
    ∃ previous next, u.NextContract previous next ∧ loc = gap previous next := by
  obtain ⟨before, previous, next, after, hcut, hloc⟩ := of_mem_gaps h
  exact ⟨previous, next, nextContract_of_contractsOf hcut, hloc⟩

end Check

/-! ## Findings at a place -/

/-- All of these are at `loc`. -/
def AllAt (loc : Location) : List Diagnostic → Prop :=
  Every fun d => d.location = loc

/-- All of these are at one of `sites`. -/
def AllAmong (sites : List Location) : List Diagnostic → Prop :=
  Every fun d => d.location ∈ sites

theorem AllAt.among {loc : Location} {found : List Diagnostic} (h : AllAt loc found) :
    AllAmong [loc] found := by
  intro d hd
  exact List.mem_singleton.2 (h d hd)

theorem AllAmong.mono {sites more : List Location} {found : List Diagnostic}
    (h : AllAmong sites found) (hsites : sites ⊆ more) : AllAmong more found := by
  intro d hd
  exact hsites (h d hd)

/-- Findings for each part of a list, at the part that they are for. -/
theorem AllAmong.flatMap_map {α : Type} {xs : List α} {loc : α → Location}
    {f : α → List Diagnostic} (h : ∀ x, AllAt (loc x) (f x)) :
    AllAmong (xs.map loc) (xs.flatMap f) := by
  refine .flatMap fun x hx d hd => ?_
  rw [h x d hd]
  exact List.mem_map_of_mem hx

/-! ## One lemma for each check

Checks that are one conditional finding, or one for each part of a list, need none. -/

namespace Check

section Naming

variable {kind name : String} {style : CaseStyle} {reference : Option String} {loc : Location}

theorem allAt_judgeName : AllAt loc (judgeName kind name style reference loc) := by
  rw [judgeName_eq]
  exact .ite (.single rfl) (.append (.ite (.single rfl) .nil) (.ite .nil (.single rfl)))

theorem allAt_stateVariableName (v : VariableDeclaration) :
    AllAt v.loc (stateVariableName v) := by
  rw [stateVariableName_eq]
  split
  · exact .single rfl
  · exact .ite allAt_judgeName allAt_judgeName

theorem allAt_localVariableName (v : VariableDeclaration) :
    AllAt v.loc (localVariableName v) := by
  rw [localVariableName_eq]
  split
  · exact .nil
  · exact .ite allAt_judgeName allAt_judgeName

theorem allAt_parameterName (v : VariableDeclaration) : AllAt v.loc (parameterName v) := by
  rw [parameterName_eq]
  split
  · exact .nil
  · exact allAt_judgeName

end Naming

theorem allAmong_layoutOrderFrom (position : Nat) (previous : Option LayoutCategory)
    (items : List TopLevelItem) :
    AllAmong (items.map fun i => i.toNode.loc) (layoutOrderFrom position previous items) := by
  induction items generalizing position previous with
  | nil => exact .nil
  | cons item rest ih =>
    have hrest := fun category =>
      (ih (position + 1) (some category)).mono (List.subset_cons_self item.toNode.loc _)
    rw [layoutOrderFrom_cons]
    split
    · exact .single (List.mem_cons_self ..)
    · split
      · exact .ite (.single (List.mem_cons_self ..)) (hrest _)
      · exact hrest _

theorem allAmong_contractOrderFrom (contract : String) (previous : Option MemberCategory)
    (members : List Member) :
    AllAmong (members.map fun m => m.toNode.loc)
      (contractOrderFrom contract previous members) := by
  induction members generalizing previous with
  | nil => exact .nil
  | cons member rest ih =>
    have hrest := fun previous => (ih previous).mono (List.subset_cons_self member.toNode.loc _)
    rw [contractOrderFrom_cons]
    split
    · exact hrest _
    · split
      · exact .ite (.single (List.mem_cons_self ..)) (hrest _)
      · exact hrest _

theorem allAmong_blankLinesAmong (contracts : List ContractDefinition) :
    AllAmong (gaps contracts) (blankLinesAmong contracts) := by
  induction contracts with
  | nil => exact .nil
  | cons previous rest ih =>
    cases rest with
    | nil => exact .nil
    | cons next rest =>
      rw [blankLinesAmong_cons_cons, blankLinesBetween_eq]
      refine .append (.ite .nil (.single (List.mem_cons_self ..))) ?_
      exact ih.mono (List.subset_cons_self ..)

theorem allAt_stateVariableUnderscore (v : VariableDeclaration) :
    AllAt v.loc (stateVariableUnderscore v) := by
  rw [stateVariableUnderscore_eq]
  split
  · exact .nil
  · exact .ite .nil (.ite (.single rfl) (.ite (.single rfl) .nil))

theorem allAt_functionUnderscore (f : FunctionDefinition) :
    AllAt f.loc (functionUnderscore f) := by
  rw [functionUnderscore_eq]
  split
  · exact .nil
  · exact .ite .nil (.ite (.single rfl) (.ite (.single rfl) .nil))

theorem allAt_stateWrite (registry : Registry) (f : FunctionDefinition) (s : Statement) :
    AllAt s.loc (stateWrite registry f s) := by
  rw [stateWrite_eq]
  split
  · exact .ite (.single rfl) .nil
  · exact .nil

theorem afterLowLevelCall_subset (statements : List Statement) :
    afterLowLevelCall statements ⊆ statements := by
  fun_induction afterLowLevelCall statements with
  | case1 => exact List.Subset.refl _
  | case2 => exact List.subset_cons_self ..
  | case3 _ _ _ ih => exact List.Subset.trans ih (List.subset_cons_self ..)

/-- Writes after a call are reported at statements of the body. -/
theorem allAmong_reentrancy (registry : Registry) (f : FunctionDefinition) :
    AllAmong (f.body.toList.flatMap fun b => b.statements.map Statement.loc)
      (reentrancy registry f) := by
  rw [reentrancy_eq]
  cases f.body with
  | none => exact .nil
  | some body =>
    have hwrites : AllAmong ((afterLowLevelCall body.statements).map Statement.loc)
        ((afterLowLevelCall body.statements).flatMap (stateWrite registry f)) :=
      .flatMap_map (allAt_stateWrite registry f)
    refine hwrites.mono ?_
    rw [Option.toList_some, List.flatMap_singleton]
    exact List.map_subset _ (afterLowLevelCall_subset _)

theorem allAt_declaredCallResult (declared : List (Option VariableDeclaration))
    (initialValue : Option Expression) (loc : Location) :
    AllAt loc (declaredCallResult declared initialValue loc) := by
  rw [declaredCallResult_eq]
  split
  · exact .ite (.single rfl) .nil
  · exact .nil

theorem allAt_discardedCallResult (e : Expression) : AllAt e.loc (discardedCallResult e) := by
  rw [discardedCallResult_eq]
  split
  · split
    · exact .ite (.single rfl) .nil
    · exact .nil
  · exact .nil

theorem allAt_unsafeGlobal (base : Expression) (member : String) (loc : Location) :
    AllAt loc (unsafeGlobal base member loc) := by
  rw [unsafeGlobal_eq]
  split
  · exact .single rfl
  · exact .single rfl
  · exact .nil

theorem allAmong_messageLength (message : Option Expression) :
    AllAmong (message.toList.map Expression.loc) (messageLength message) := by
  rw [messageLength_eq]
  split
  · exact .nil
  · exact .ite (.single (List.mem_singleton_self _)) .nil
  · exact .single (List.mem_singleton_self _)

theorem allAmong_messageLength_argument (callee : Expression) (arguments : List Expression)
    (names : List String) (loc : Location) (i : Nat) :
    AllAmong ((Expression.functionCall callee arguments names loc).children.map Expression.loc)
      (messageLength arguments[i]?) := by
  refine (allAmong_messageLength _).mono ?_
  intro site hsite
  obtain ⟨a, ha, rfl⟩ := List.mem_map.1 hsite
  have hmem : a ∈ arguments := List.mem_of_getElem? (Option.mem_toList.1 ha)
  exact List.mem_map_of_mem (List.mem_cons_of_mem _ hmem)

/-- A call is reported at itself, and its message at the argument. -/
theorem allAmong_customError (e : Expression) :
    AllAmong (e.loc :: e.children.map Expression.loc) (customError e) := by
  rw [customError_eq]
  cases e with
  | functionCall callee arguments names loc =>
    have hmessage := fun i =>
      (allAmong_messageLength_argument callee arguments names loc i).mono
        (List.subset_cons_self loc _)
    dsimp only
    split
    · exact .cons (List.mem_cons_self ..) (hmessage 1)
    · exact .ite .nil (.cons (List.mem_cons_self ..) (hmessage 0))
    · exact .nil
  | _ => exact .nil

theorem allAt_stateVariableCaching (registry : Registry) (f : FunctionDefinition) :
    AllAt f.loc (stateVariableCaching registry f) := by
  rw [stateVariableCaching_eq]
  split
  · exact .nil
  · exact .flatMap fun name _ => .ite (.single rfl) .nil

theorem allAmong_calldataParameters (f : FunctionDefinition) :
    AllAmong (f.parameters.map VariableDeclaration.loc) (calldataParameters f) := by
  rw [calldataParameters_eq]
  split
  · exact .nil
  · exact .flatMap_map fun v => .ite (.single rfl) .nil

theorem allAt_loopLengthCaching (registry : Registry) (condition : Option Expression)
    (loc : Location) : AllAt loc (loopLengthCaching registry condition loc) := by
  rw [loopLengthCaching_eq]
  split
  · exact .ite (.single rfl) .nil
  · exact .nil

theorem allAt_increment (e : Expression) : AllAt e.loc (increment e) := by
  rw [increment_eq]
  split
  · exact .single rfl
  · exact .nil

theorem allAt_comparisonOperator (legacy : Bool) (operator : String) (loc : Location) :
    AllAt loc (comparisonOperator legacy operator loc) := by
  rw [comparisonOperator_eq, strictComparison_eq]
  refine .append ?_ ?_
  · cases strictComparison? operator with
    | none => exact .nil
    | some better => exact .single rfl
  · refine .replicate ?_ _
    rfl

end Check

/-! ## The sites of an inspection -/

namespace Inspection

/-- The locations at which an inspection reports. -/
def sites : Inspection → List Location
  | layoutOrder u => u.items.map fun i => i.toNode.loc
  | blankLines u => Check.gaps (Check.contractsOf u)
  | contractOrder c => c.members.map fun m => m.toNode.loc
  | functionOrder c | contractName c => [c.loc]
  | stateVariableVisibility d => d.declared.map VariableDeclaration.loc
  | stateVariableUnderscore v | stateVariableName v | typeAbbreviation v => [v.loc]
  | functionVisibility f | functionUnderscore f | functionName f | stateVariableCaching f => [f.loc]
  | reentrancy f => f.body.toList.flatMap fun b => b.statements.map Statement.loc
  | calldataParameters f => f.parameters.map VariableDeclaration.loc
  | namedReturns f => f.returnParameters.map VariableDeclaration.loc
  | parameterNames parameters => parameters.map VariableDeclaration.loc
  | localVariableNames declared => (declared.filterMap id).map VariableDeclaration.loc
  | declaredCallResult _ _ loc | unsafeGlobal _ _ loc | loopLengthCaching _ loc
  | comparisonOperator _ loc => [loc]
  | structName d => [d.loc]
  | eventName d => [d.loc]
  | indexedEvents d => d.parameters.map VariableDeclaration.loc
  | enumName d => [d.loc]
  | modifierName d => [d.loc]
  | discardedCallResult e | increment e => [e.loc]
  | customError e => e.loc :: e.children.map Expression.loc
  | erc721Inheritance s => [s.loc]

/-- **Every finding of an inspection is at one of its sites.** -/
theorem allAmong_run (options : Options) (registry : Registry) (i : Inspection) :
    AllAmong i.sites (i.run options registry) := by
  cases i with
  | layoutOrder u => exact Check.allAmong_layoutOrderFrom 0 none u.items
  | blankLines u => exact Check.allAmong_blankLinesAmong (Check.contractsOf u)
  | contractOrder c => exact Check.allAmong_contractOrderFrom c.name none c.members
  | functionOrder c =>
    rw [run, Check.functionOrder_eq]
    exact AllAt.among (.ite .nil (.single rfl))
  | contractName c => exact Check.allAt_judgeName.among
  | stateVariableVisibility d =>
    rw [run, Check.stateVariableVisibility_eq]
    exact .flatMap_map fun v => .ite (.single rfl) .nil
  | stateVariableUnderscore v => exact (Check.allAt_stateVariableUnderscore v).among
  | stateVariableName v => exact (Check.allAt_stateVariableName v).among
  | typeAbbreviation v =>
    rw [run, Check.typeAbbreviation_eq]
    exact AllAt.among (.ite (.single rfl) .nil)
  | functionVisibility f =>
    rw [run, Check.functionVisibility_eq]
    exact AllAt.among (.ite (.single rfl) .nil)
  | functionUnderscore f => exact (Check.allAt_functionUnderscore f).among
  | functionName f =>
    rw [run, Check.functionName_eq]
    exact AllAt.among (.ite Check.allAt_judgeName .nil)
  | reentrancy f => exact Check.allAmong_reentrancy registry f
  | stateVariableCaching f => exact (Check.allAt_stateVariableCaching registry f).among
  | calldataParameters f => exact Check.allAmong_calldataParameters f
  | namedReturns f =>
    rw [run, Check.namedReturns_eq]
    exact .flatMap_map fun v => .ite (.single rfl) .nil
  | parameterNames parameters =>
    rw [run, Check.parameterNames_eq]
    exact .flatMap_map Check.allAt_parameterName
  | localVariableNames declared =>
    rw [run, Check.localVariableNames_eq]
    exact .flatMap_map Check.allAt_localVariableName
  | declaredCallResult declared initialValue loc =>
    exact (Check.allAt_declaredCallResult declared initialValue loc).among
  | structName d => exact Check.allAt_judgeName.among
  | eventName d => exact Check.allAt_judgeName.among
  | indexedEvents d =>
    rw [run, Check.indexedEvents_eq]
    exact .flatMap_map fun v => .ite (.single rfl) .nil
  | enumName d => exact Check.allAt_judgeName.among
  | modifierName d => exact Check.allAt_judgeName.among
  | unsafeGlobal base member loc => exact (Check.allAt_unsafeGlobal base member loc).among
  | discardedCallResult e => exact (Check.allAt_discardedCallResult e).among
  | customError e => exact Check.allAmong_customError e
  | loopLengthCaching condition loc =>
    exact (Check.allAt_loopLengthCaching registry condition loc).among
  | increment e => exact (Check.allAt_increment e).among
  | comparisonOperator operator loc =>
    exact (Check.allAt_comparisonOperator options.legacyOperators operator loc).among
  | erc721Inheritance s =>
    rw [run, Check.erc721Inheritance_eq]
    exact AllAt.among (.ite (.single rfl) .nil)

/-! ## Which nodes call for it -/

theorem singleton_loc_subset_sites (n : Node) : [n.loc] ⊆ n.sites := by
  intro site hsite
  rw [List.mem_singleton.1 hsite]
  exact Node.loc_mem_sites n

/-- The locations of parts that are directly below a node. -/
theorem map_loc_subset_sites {α : Type} {n : Node} {xs : List α} (node : α → Node)
    (h : xs.map node ⊆ n.children) : (xs.map fun x => (node x).loc) ⊆ n.sites := by
  intro site hsite
  obtain ⟨x, hx, rfl⟩ := List.mem_map.1 hsite
  exact Node.loc_mem_sites_of_mem_children (h (List.mem_map_of_mem hx))

theorem child_loc_subset_sites {n : Node} (c : Node) (h : c ∈ n.children) : [c.loc] ⊆ n.sites :=
  List.Subset.trans (singleton_loc_subset_sites c) (Node.sites_subset_of_mem_children h)

section Function

variable (f : FunctionDefinition)

theorem parameters_loc_subset_sites :
    f.parameters.map VariableDeclaration.loc ⊆ (Node.function f).sites := by
  refine map_loc_subset_sites .declaration ?_
  rw [Node.children, List.append_assoc]
  exact List.subset_append_left ..

theorem returnParameters_loc_subset_sites :
    f.returnParameters.map VariableDeclaration.loc ⊆ (Node.function f).sites := by
  refine map_loc_subset_sites .declaration ?_
  rw [Node.children]
  exact List.Subset.trans (List.subset_append_right ..) (List.subset_append_left ..)

theorem statements_loc_subset_sites :
    (f.body.toList.flatMap fun b => b.statements.map Statement.loc)
      ⊆ (Node.function f).sites := by
  intro site hsite
  obtain ⟨b, hb, hsite⟩ := List.mem_flatMap.1 hsite
  have hbody : Node.body b ∈ (Node.function f).children :=
    List.mem_append_right _ (List.mem_map_of_mem hb)
  have hstatements : b.statements.map Statement.loc ⊆ (Node.body b).sites :=
    map_loc_subset_sites .statement (List.Subset.refl _)
  exact Node.sites_subset_of_mem_children hbody (hstatements hsite)

theorem sites_subset_of_mem_ofFunction {i : Inspection} (hi : i ∈ ofFunction f) :
    i.sites ⊆ (Node.function f).sites := by
  have hself := singleton_loc_subset_sites (.function f)
  rw [ofFunction, List.mem_append] at hi
  rcases hi with hi | hi
  · split at hi
    · cases hi
    · simp only [List.mem_cons, List.not_mem_nil, or_false] at hi
      obtain rfl | rfl := hi
      · exact hself
      · exact hself
  · simp only [List.mem_cons, List.not_mem_nil, or_false] at hi
    obtain rfl | rfl | rfl | rfl | rfl | rfl := hi
    · exact parameters_loc_subset_sites f
    · exact returnParameters_loc_subset_sites f
    · exact hself
    · exact parameters_loc_subset_sites f
    · exact hself
    · exact statements_loc_subset_sites f

end Function

theorem sites_subset_of_mem_ofStatement {s : Statement} {i : Inspection}
    (hi : i ∈ ofStatement s) : i.sites ⊆ (Node.statement s).sites := by
  have hself := singleton_loc_subset_sites (.statement s)
  cases s with
  | variableDeclaration declared initialValue loc =>
    simp only [ofStatement, List.mem_cons, List.not_mem_nil, or_false] at hi
    obtain rfl | rfl := hi
    · exact hself
    · exact map_loc_subset_sites .declaration (List.subset_append_left ..)
  | expression e loc =>
    have he : Node.expression e ∈ (Node.statement (.expression e loc)).children :=
      List.mem_singleton_self _
    have hexpression : [e.loc] ⊆ (Node.statement (.expression e loc)).sites :=
      child_loc_subset_sites (.expression e) he
    have hoperands : e.children.map Expression.loc ⊆ (Node.statement (.expression e loc)).sites :=
      List.Subset.trans (map_loc_subset_sites .expression (List.Subset.refl _))
        (Node.sites_subset_of_mem_children he)
    simp only [ofStatement, List.mem_cons, List.not_mem_nil, or_false] at hi
    obtain rfl | rfl | rfl := hi
    · exact List.append_subset.2 ⟨hexpression, hoperands⟩
    · exact hexpression
    · exact hexpression
  | forLoop init condition update body loc =>
    simp only [ofStatement, List.mem_cons, List.mem_map, Option.mem_toList] at hi
    obtain rfl | ⟨e, he, rfl⟩ := hi
    · exact hself
    · refine child_loc_subset_sites (.expression e) ?_
      simp [Node.children, Statement.children, he]
  | _ => cases hi

theorem sites_subset_of_mem_ofExpression {e : Expression} {i : Inspection}
    (hi : i ∈ ofExpression e) : i.sites ⊆ (Node.expression e).sites := by
  have hself := singleton_loc_subset_sites (.expression e)
  cases e with
  | memberAccess base member loc =>
    obtain rfl := List.mem_singleton.1 hi
    exact hself
  | binaryOperation operator left right loc =>
    obtain rfl := List.mem_singleton.1 hi
    exact hself
  | _ => cases hi

/-- **The sites of what a node calls for are locations at or below it,** but for the check of blank
    lines, which a file calls for. -/
theorem sites_subset_of_mem_ofNode {n : Node} {i : Inspection} (hi : i ∈ ofNode n) :
    (∃ u, n = .sourceUnit u ∧ i = .blankLines u) ∨ i.sites ⊆ n.sites := by
  have hself := singleton_loc_subset_sites n
  cases n with
  | sourceUnit u =>
    simp only [ofNode, List.mem_cons, List.not_mem_nil, or_false] at hi
    obtain rfl | rfl := hi
    · exact .inr (map_loc_subset_sites TopLevelItem.toNode (List.Subset.refl _))
    · exact .inl ⟨u, rfl, rfl⟩
  | contract c =>
    simp only [ofNode, List.mem_cons, List.not_mem_nil, or_false] at hi
    obtain rfl | rfl | rfl := hi
    · exact .inr (map_loc_subset_sites Member.toNode (List.subset_append_right ..))
    · exact .inr hself
    · exact .inr hself
  | stateVariable d =>
    have hdeclared : d.declared.map VariableDeclaration.loc ⊆ (Node.stateVariable d).sites :=
      map_loc_subset_sites .declaration (List.subset_append_left ..)
    simp only [ofNode, List.mem_cons, List.mem_flatMap, List.not_mem_nil, or_false] at hi
    obtain rfl | ⟨v, hv, hi⟩ := hi
    · exact .inr hdeclared
    · have hchild : Node.declaration v ∈ (Node.stateVariable d).children :=
        List.mem_append_left _ (List.mem_map_of_mem hv)
      have hsite : [v.loc] ⊆ (Node.stateVariable d).sites :=
        child_loc_subset_sites (.declaration v) hchild
      obtain rfl | rfl := hi
      · exact .inr hsite
      · exact .inr hsite
  | function f => exact .inr (sites_subset_of_mem_ofFunction f hi)
  | declaration v =>
    obtain rfl := List.mem_singleton.1 hi
    exact .inr hself
  | event d =>
    simp only [ofNode, List.mem_cons, List.not_mem_nil, or_false] at hi
    obtain rfl | rfl := hi
    · exact .inr (map_loc_subset_sites .declaration (List.Subset.refl _))
    · exact .inr hself
  | inheritance s =>
    obtain rfl := List.mem_singleton.1 hi
    exact .inr hself
  | struct d =>
    obtain rfl := List.mem_singleton.1 hi
    exact .inr hself
  | modifier d =>
    simp only [ofNode, List.mem_cons, List.not_mem_nil, or_false] at hi
    obtain rfl | rfl := hi
    · exact .inr hself
    · exact .inr (map_loc_subset_sites .declaration (List.subset_append_left ..))
  | enum d =>
    obtain rfl := List.mem_singleton.1 hi
    exact .inr hself
  | statement s => exact .inr (sites_subset_of_mem_ofStatement hi)
  | expression e => exact .inr (sites_subset_of_mem_ofExpression hi)
  | pragma d => cases hi
  | importDirective d => cases hi
  | error d => cases hi
  | body b => cases hi
  | other o => cases hi

/-- Only the file calls for the check of its blank lines. -/
theorem eq_sourceUnit_of_mem_ofNode {n : Node} {u : SourceUnit} (h : .blankLines u ∈ ofNode n) :
    n = .sourceUnit u := by
  cases n with
  | sourceUnit v =>
    simp only [ofNode, List.mem_cons, List.not_mem_nil, or_false, reduceCtorEq, false_or,
      blankLines.injEq] at h
    rw [h]
  | function f => simp [ofNode, ofFunction] at h
  | statement s => cases s <;> simp [ofNode, ofStatement] at h
  | expression e => cases e <;> simp [ofNode, ofExpression] at h
  | _ => simp [ofNode] at h

/-! ## The rules of an inspection in the catalogue -/

theorem rules_subset_catalogue (i : Inspection) : i.rules ⊆ Rule.catalogue := by
  fun_cases rules i <;> simp [Check.namingRules, Rule.catalogue]

/-- Only the check of blank lines reports that rule. -/
theorem eq_blankLines_of_mayReport {i : Inspection} (h : i.mayReport Rule.blankLines.id = true) :
    ∃ u, i = .blankLines u := by
  cases i with
  | blankLines u => exact ⟨u, rfl⟩
  | _ => cases h

end Inspection

/-- No two rules have the same identifier. -/
theorem Rule.nodup_id_catalogue : (Rule.catalogue.map Rule.id).Nodup := by
  decide +kernel

/-! ## The findings of a pass -/

/-- Where a finding in a file comes from. -/
structure Diagnostic.Traceable (d : Diagnostic) (u : SourceUnit) : Prop where
  /-- The catalogue has one rule of that identifier. The finding has the severity of that rule, and
      the page too, unless it is about the case of a name; then the page is the one for a kind of
      name, or there is none. -/
  catalogued : ∃ rule ∈ Rule.catalogue, rule.id = d.ruleId
    ∧ (∀ other ∈ Rule.catalogue, other.id = d.ruleId → other = rule)
    ∧ d.severity = rule.severity
    ∧ (rule ≠ Rule.nameCase → d.reference = rule.reference)
    ∧ (rule = Rule.nameCase →
      d.reference = none ∨ ∃ kind : NamingPage, d.reference = kind.reference)
  /-- It is at a node of the file. -/
  located : d.ruleId ≠ Rule.blankLines.id →
    ∃ n ∈ (Node.sourceUnit u).walk, d.location = n.loc
  /-- Only a finding about blank lines is not: it is between a contract and the next one. -/
  between : d.ruleId = Rule.blankLines.id → ∃ previous next, u.NextContract previous next
    ∧ d.location = ⟨previous.loc.stop, next.loc.start⟩

namespace Engine

/-- A finding is made by an inspection that a node of the walk calls for. -/
theorem exists_inspection_of_mem_run {options : Options} {u : SourceUnit} {d : Diagnostic}
    (h : d ∈ run options u) :
    ∃ n ∈ (Node.sourceUnit u).walk, ∃ i ∈ Inspection.ofNode n, ∃ registry,
      d ∈ i.run options registry := by
  rw [run_eq_emittedAlong, emittedAlong, List.mem_flatMap] at h
  obtain ⟨⟨n, position⟩, hn, hd⟩ := h
  dsimp only at hd
  rw [emitted_eq_findings, findings_eq, List.mem_flatMap] at hd
  obtain ⟨i, hi, hd⟩ := hd
  exact ⟨n, List.fst_mem_of_mem_zipIdx hn, i, hi, _, hd⟩

theorem catalogued_of_isOf {d : Diagnostic} {rule : Rule} (hrule : rule ∈ Rule.catalogue)
    (h : d.IsOf rule) :
    rule.id = d.ruleId ∧ (∀ other ∈ Rule.catalogue, other.id = d.ruleId → other = rule)
      ∧ d.severity = rule.severity
      ∧ (rule ≠ Rule.nameCase → d.reference = rule.reference)
      ∧ (rule = Rule.nameCase →
        d.reference = none ∨ ∃ kind : NamingPage, d.reference = kind.reference) := by
  obtain ⟨hid, hseverity, hreference⟩ := h
  refine ⟨hid.symm, ?_, hseverity, ?_, ?_⟩
  · intro other hother hsame
    exact List.inj_on_of_nodup_map Rule.nodup_id_catalogue hother hrule (hsame.trans hid)
  · intro hname
    exact hreference.resolve_right fun hpage => hname hpage.1
  · rintro rfl
    exact hreference.imp id And.right

/-- **Every finding can be traced** to a rule of the catalogue and to a place in the file. -/
theorem run_traceable (options : Options) (u : SourceUnit) :
    ∀ d ∈ run options u, d.Traceable u := by
  intro d hd
  obtain ⟨n, hn, i, hi, registry, hd⟩ := exists_inspection_of_mem_run hd
  obtain ⟨rule, hrule, hisOf⟩ := Inspection.fromRules_run options registry i d hd
  have hsite := Inspection.allAmong_run options registry i d hd
  refine ⟨⟨rule, i.rules_subset_catalogue hrule, ?_⟩, ?_, ?_⟩
  · exact catalogued_of_isOf (i.rules_subset_catalogue hrule) hisOf
  · intro hother
    obtain ⟨v, -, rfl⟩ | hsites := Inspection.sites_subset_of_mem_ofNode hi
    · -- The check of blank lines reports no other rule.
      obtain rfl := List.mem_singleton.1 hrule
      exact absurd hisOf.1 hother
    · obtain ⟨m, hm, hloc⟩ := List.mem_map.1 (hsites hsite)
      exact ⟨m, Node.walk_subset_of_mem_walk hn hm, hloc.symm⟩
  · intro hblank
    have hmay := Inspection.mayReport_of_mem_run hd
    rw [hblank] at hmay
    obtain ⟨v, rfl⟩ := Inspection.eq_blankLines_of_mayReport hmay
    -- The file is the only node that calls for it.
    rw [Inspection.eq_sourceUnit_of_mem_ofNode hi] at hn
    obtain rfl : u = v := Node.sourceUnit.inj (Node.eq_of_sourceUnit_mem_walk hn)
    exact Check.nextContract_of_mem_gaps hsite

/-- Two contracts with one blank line between them, the first with a name in lower case. -/
def neighbours : SourceUnit :=
  ⟨[.contract ⟨"vault", .contract, [], [], ⟨⟨1, 0⟩, ⟨1, 17⟩⟩⟩,
    .contract ⟨"Safe", .contract, [], [], ⟨⟨3, 0⟩, ⟨3, 16⟩⟩⟩], ⟨⟨1, 0⟩, ⟨4, 0⟩⟩⟩

/-- What the check of blank lines finds there. -/
def neighboursGap : Diagnostic :=
  Rule.blankLines.diagnostic "there should be 2 blank lines between vault and Safe"
    ⟨⟨1, 17⟩, ⟨3, 0⟩⟩

/-- What the check of names finds there. -/
def neighboursName : Diagnostic :=
  ⟨"SOL-N002", "contract name \"vault\" should be capWord!", .info, ⟨⟨1, 0⟩, ⟨1, 17⟩⟩,
    NamingPage.contract.reference⟩

/-- One finding is between two contracts, the other at a contract. -/
theorem run_traceable_neighbours :
    run ⟨false⟩ neighbours = [neighboursGap, neighboursName]
      ∧ neighboursGap.Traceable neighbours ∧ neighboursName.Traceable neighbours := by
  have hrun : run ⟨false⟩ neighbours = [neighboursGap, neighboursName] := by decide +kernel
  have htraceable := run_traceable ⟨false⟩ neighbours
  rw [hrun] at htraceable
  exact ⟨hrun, htraceable _ (by simp), htraceable _ (by simp)⟩

end Engine

end SolidityLint
