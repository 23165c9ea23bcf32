import Mathlib.Data.List.Flatten
import Mathlib.Data.List.Perm.Subperm
import SolidityLint.Proofs.Provenance

set_option autoImplicit false

/-! # Declaring more state hides nothing

Three checks ask the registry of state variables: writes after a call, cached state variables and
cached lengths. This file compares the pass over a file with the pass over the same file with one
more state variable declared somewhere. The second registry then holds more at every later node,
perhaps in another order, and each of the three checks finds at least as much with it.

`Registry.Within` is the relation between the two registries; registering keeps it
(`Registry.Within.registerAll`). The walk of the larger file has all nodes of the smaller one but
the file and the contract that gained the declaration, and more (`Node.contents_walk_sublist`);
these two declare nothing and call for none of the three checks. The run lemma is
`Engine.reported_mono`, once for two comparisons of findings: as sublists, and as collections where
the order does not count, since cached state variables are reported in the order of registration. -/

namespace SolidityLint

open Ast

/-! ## Registries that hold more -/

namespace Registry

theorem mem_names_registerAll {r : Registry} {names : List String} {name : String} :
    name ∈ (r.registerAll names).names ↔ name ∈ r.names ∨ name ∈ names := by
  induction names generalizing r with
  | nil => simp [registerAll]
  | cons first rest ih =>
    have hstep : name ∈ (r.register first).names ↔ name ∈ r.names ∨ name = first := by
      unfold register contains
      split
      · next h =>
        have hfirst : first ∈ r.names := by simpa using h
        constructor
        · exact .inl
        · rintro (h | rfl)
          · exact h
          · exact hfirst
      · simp
    show name ∈ ((r.register first).registerAll rest).names ↔ _
    rw [ih, hstep, List.mem_cons, or_assoc]

theorem nodup_names_registerAll {r : Registry} (h : r.names.Nodup) (names : List String) :
    (r.registerAll names).names.Nodup := by
  induction names generalizing r with
  | nil => exact h
  | cons first rest ih =>
    refine ih ?_
    unfold register contains
    split
    · exact h
    · next hnew =>
      have hfirst : first ∉ r.names := by simpa using hnew
      refine List.nodup_append.2 ⟨h, by simp, ?_⟩
      rintro name hname _ hmem rfl
      exact hfirst (List.mem_singleton.1 hmem ▸ hname)

/-- Everything that the first registry holds, it holds once, and the second holds it too. -/
structure Within (r r' : Registry) : Prop where
  nodup : r.names.Nodup
  subset : r.names ⊆ r'.names

namespace Within

variable {r r' : Registry}

/-- Both registries take the same names. -/
theorem registerAll (h : r.Within r') (names : List String) :
    (r.registerAll names).Within (r'.registerAll names) := by
  refine ⟨nodup_names_registerAll h.nodup names, fun name hname => ?_⟩
  rw [mem_names_registerAll] at hname ⊢
  exact hname.imp_left (h.subset ·)

/-- Only the second registry takes names. -/
theorem registerAll_right (h : r.Within r') (names : List String) :
    r.Within (r'.registerAll names) := by
  refine ⟨h.nodup, fun name hname => ?_⟩
  rw [mem_names_registerAll]
  exact .inl (h.subset hname)

theorem contains (h : r.Within r') {name : String} (hname : r.contains name = true) :
    r'.contains name = true := by
  unfold Registry.contains at *
  rw [List.contains_iff_mem] at *
  exact h.subset hname

end Within

end Registry

/-! ## The three checks find at least as much -/

namespace Check

variable {r r' : Registry}

/-- A finding that asks for a registered name. -/
theorem sublist_of_contains (h : r.Within r') (name : String) (d : Diagnostic) :
    (if r.contains name then [d] else []).Sublist (if r'.contains name then [d] else []) := by
  split
  · next hname => rw [if_pos (h.contains hname)]
  · exact List.nil_sublist _

theorem reentrancy_sublist (h : r.Within r') (f : FunctionDefinition) :
    (reentrancy r f).Sublist (reentrancy r' f) := by
  rw [reentrancy_eq, reentrancy_eq]
  cases f.body with
  | none => exact List.nil_sublist _
  | some body =>
    refine List.Sublist.flatMap_right _ fun s _ => ?_
    rw [stateWrite_eq, stateWrite_eq]
    cases assignedName s with
    | none => exact List.nil_sublist _
    | some target => exact sublist_of_contains h target _

theorem loopLengthCaching_sublist (h : r.Within r') (condition : Option Expression)
    (loc : Location) :
    (loopLengthCaching r condition loc).Sublist (loopLengthCaching r' condition loc) := by
  rw [loopLengthCaching_eq, loopLengthCaching_eq]
  cases loopArray? condition with
  | none => exact List.nil_sublist _
  | some array => exact sublist_of_contains h array _

/-- The names that both registries hold may stand in another order in the second. -/
theorem stateVariableCaching_subperm (h : r.Within r') (f : FunctionDefinition) :
    (stateVariableCaching r f).Subperm (stateVariableCaching r' f) := by
  rw [stateVariableCaching_eq, stateVariableCaching_eq]
  cases f.body with
  | none => exact List.nil_subperm
  | some body =>
    obtain ⟨names, hperm, hsublist⟩ := h.nodup.subperm h.subset
    exact ⟨names.flatMap (cacheName f body), hperm.flatMap_right _, hsublist.flatMap _⟩

end Check

namespace Inspection

variable {r r' : Registry}

/-- Of each rule but the one about cached state variables, an inspection reports a sublist. -/
theorem runFor_sublist (h : r.Within r') {id : String} (hid : id ≠ Rule.cacheStateVariable.id)
    (options : Options) (i : Inspection) :
    (i.runFor id options r).Sublist (i.runFor id options r') := by
  cases i with
  | stateVariableCaching f =>
    have hsilent : (stateVariableCaching f).mayReport id = false := by
      simp [mayReport, rules, hid.symm]
    rw [runFor_eq_nil hsilent]
    exact List.nil_sublist _
  | reentrancy f => exact (Check.reentrancy_sublist h f).filter _
  | loopLengthCaching condition loc =>
    exact (Check.loopLengthCaching_sublist h condition loc).filter _
  | _ => exact List.Sublist.refl _

/-- Of every rule it reports as much, whatever the order. -/
theorem runFor_subperm (h : r.Within r') (id : String) (options : Options) (i : Inspection) :
    (i.runFor id options r).Subperm (i.runFor id options r') := by
  cases i with
  | stateVariableCaching f => exact (Check.stateVariableCaching_subperm h f).filter _
  | reentrancy f => exact ((Check.reentrancy_sublist h f).filter _).subperm
  | loopLengthCaching condition loc =>
    exact ((Check.loopLengthCaching_sublist h condition loc).filter _).subperm
  | _ => exact (List.Sublist.refl _).subperm

end Inspection

/-! ## One more declaration in the walk -/

/-- The second file is the first with the state variable declared in one place more: at some
    position among the items of the file or among the members of a contract. -/
inductive Ast.SourceUnit.GainsStateVariable (d : StateVariableDeclaration) :
    SourceUnit → SourceUnit → Prop where
  | item (before after : List TopLevelItem) (loc : Location) :
      GainsStateVariable d ⟨before ++ after, loc⟩ ⟨before ++ .stateVariable d :: after, loc⟩
  | member (before after : List TopLevelItem) (c : ContractDefinition) (first last : List Member)
      (loc : Location) :
      GainsStateVariable d
        ⟨before ++ .contract { c with members := first ++ last } :: after, loc⟩
        ⟨before ++ .contract { c with members := first ++ .stateVariable d :: last } :: after, loc⟩

namespace Ast.Node

/-- The nodes that hold a list of declarations, which may gain one. -/
def isContainer : Node → Bool
  | sourceUnit _ | contract _ => true
  | _ => false

/-- The nodes among `nodes` that hold no list of declarations. -/
def contents (nodes : List Node) : List Node :=
  nodes.filter fun n => !n.isContainer

theorem contents_append (before after : List Node) :
    contents (before ++ after) = contents before ++ contents after :=
  List.filter_append ..

theorem contents_walk_sourceUnit (u : SourceUnit) :
    contents (sourceUnit u).walk
      = u.items.flatMap fun i => contents i.toNode.walk := by
  rw [walk_eq, children, List.flatMap_map]
  exact List.filter_flatMap

theorem contents_walk_contract (c : ContractDefinition) :
    contents (contract c).walk
      = contents ((c.bases.map inheritance).flatMap walk)
        ++ c.members.flatMap fun m => contents m.toNode.walk := by
  rw [walk_eq, children, List.flatMap_append]
  show contents
    ((c.bases.map inheritance).flatMap walk ++ (c.members.map Member.toNode).flatMap walk) = _
  rw [contents_append, List.flatMap_map Member.toNode]
  exact congrArg _ List.filter_flatMap

/-- All nodes of the smaller walk are met in the larger one, in the same order. -/
theorem contents_walk_sublist {d : StateVariableDeclaration} {u v : SourceUnit}
    (h : u.GainsStateVariable d v) :
    (contents (sourceUnit u).walk).Sublist (contents (sourceUnit v).walk) := by
  rw [contents_walk_sourceUnit, contents_walk_sourceUnit]
  cases h with
  | item before after loc =>
    rw [List.flatMap_append, List.flatMap_append, List.flatMap_cons]
    exact (List.Sublist.refl _).append (List.sublist_append_right ..)
  | member before after c first last loc =>
    have hcontract : (contents (contract { c with members := first ++ last }).walk).Sublist
        (contents (contract { c with members := first ++ .stateVariable d :: last }).walk) := by
      rw [contents_walk_contract, contents_walk_contract, List.flatMap_append,
        List.flatMap_append, List.flatMap_cons]
      exact (List.Sublist.refl _).append
        ((List.Sublist.refl _).append (List.sublist_append_right ..))
    rw [List.flatMap_append, List.flatMap_append, List.flatMap_cons, List.flatMap_cons]
    exact (List.Sublist.refl _).append (hcontract.append (List.Sublist.refl _))

end Ast.Node

/-! ## The pass -/

namespace Engine

/-- What a pass over `nodes` emits that starts with this registry. -/
def emittedFrom (options : Options) (registry : Registry) : List Node → List Diagnostic
  | [] => []
  | n :: rest =>
      emitted options registry n
        ++ emittedFrom options (registry.registerAll (declaredNames n)) rest

theorem foldl_visit_diagnostics (options : Options) (c : Context) (nodes : List Node) :
    (nodes.foldl (visit options) c).diagnostics
      = c.diagnostics ++ emittedFrom options c.registry nodes := by
  induction nodes generalizing c with
  | nil => simp [emittedFrom]
  | cons n rest ih =>
    rw [List.foldl_cons, ih, visit_diagnostics, visit_registry, emittedFrom, List.append_assoc]

/-- The findings of one rule at a node. -/
def reportedAt (id : String) (options : Options) (registry : Registry) (n : Node) :
    List Diagnostic :=
  (emitted options registry n).filter fun d => d.ruleId == id

/-- The findings of one rule in a pass over `nodes` that starts with this registry. -/
def reported (id : String) (options : Options) (registry : Registry) (nodes : List Node) :
    List Diagnostic :=
  (emittedFrom options registry nodes).filter fun d => d.ruleId == id

theorem reported_cons (id : String) (options : Options) (registry : Registry) (n : Node)
    (rest : List Node) :
    reported id options registry (n :: rest)
      = reportedAt id options registry n
        ++ reported id options (registry.registerAll (declaredNames n)) rest :=
  List.filter_append ..

theorem filter_run_eq_reported (id : String) (options : Options) (u : SourceUnit) :
    (run options u).filter (fun d => d.ruleId == id)
      = reported id options .empty (Node.sourceUnit u).walk := by
  unfold run reported
  rw [foldl_visit_diagnostics]
  rfl

theorem reportedAt_eq_flatMap (id : String) (options : Options) (registry : Registry) (n : Node) :
    reportedAt id options registry n
      = (Inspection.ofNode n).flatMap
          (Inspection.runFor id options (registry.registerAll (declaredNames n))) := by
  unfold reportedAt
  rw [emitted_eq_findings, findings_eq]
  exact List.filter_flatMap

/-- **More registered, more reported.** Whatever comparison of findings each node keeps when its
    registry holds more, a pass keeps when it also meets more nodes. -/
theorem reported_mono {id : String} {options : Options}
    {NoMore : List Diagnostic → List Diagnostic → Prop}
    (hnil : ∀ found, NoMore [] found)
    (happend : ∀ {a b c d}, NoMore a b → NoMore c d → NoMore (a ++ c) (b ++ d))
    (hnode : ∀ {r r' : Registry}, r.Within r' → ∀ n,
      NoMore (reportedAt id options r n) (reportedAt id options r' n))
    {nodes more : List Node} (h : nodes.Sublist more) {r r' : Registry} (hr : r.Within r') :
    NoMore (reported id options r nodes) (reported id options r' more) := by
  induction h generalizing r r' with
  | slnil => exact hnil _
  | cons n _ ih =>
    -- Only the larger walk meets the node, and only its registry takes the names.
    rw [reported_cons]
    exact happend (hnil _) (ih (hr.registerAll_right (declaredNames n)))
  | cons_cons n _ ih =>
    rw [reported_cons, reported_cons]
    exact happend (hnode hr n) (ih (hr.registerAll (declaredNames n)))

/-- The rules whose checks ask the registry. -/
def registryRules : List Rule :=
  [Rule.reentrancy, Rule.cacheStateVariable, Rule.cacheArrayLength]

/-- A file or a contract calls for no check that asks the registry. -/
theorem reportedAt_isContainer {rule : Rule} (hrule : rule ∈ registryRules) (options : Options)
    (registry : Registry) {n : Node} (hn : n.isContainer = true) :
    reportedAt rule.id options registry n = [] := by
  have hsilent : (Inspection.ofNode n).filter (Inspection.mayReport rule.id) = [] := by
    simp only [registryRules, List.mem_cons, List.not_mem_nil, or_false] at hrule
    cases n with
    | sourceUnit u => obtain rfl | rfl | rfl := hrule <;> rfl
    | contract c => obtain rfl | rfl | rfl := hrule <;> rfl
    | _ => cases hn
  unfold reportedAt
  rw [emitted_eq_findings, filter_findings, hsilent, List.flatMap_nil]

theorem declaredNames_isContainer {n : Node} (hn : n.isContainer = true) :
    declaredNames n = [] := by
  cases n with
  | sourceUnit u => rfl
  | contract c => rfl
  | _ => cases hn

/-- The findings of these rules do not depend on the files and contracts in the walk. -/
theorem reported_contents {rule : Rule} (hrule : rule ∈ registryRules) (options : Options)
    (registry : Registry) (nodes : List Node) :
    reported rule.id options registry (Node.contents nodes)
      = reported rule.id options registry nodes := by
  induction nodes generalizing registry with
  | nil => rfl
  | cons n rest ih =>
    rw [reported_cons, ← ih]
    by_cases hn : n.isContainer = true
    · have hskip : Node.contents (n :: rest) = Node.contents rest := by
        simp [Node.contents, hn]
      rw [hskip, reportedAt_isContainer hrule options registry hn, declaredNames_isContainer hn]
      rfl
    · have hkeep : Node.contents (n :: rest) = n :: Node.contents rest := by
        simp [Node.contents, hn]
      rw [hkeep, reported_cons]

theorem reportedAt_sublist {id : String} (hid : id ≠ Rule.cacheStateVariable.id)
    (options : Options) {r r' : Registry} (hr : r.Within r') (n : Node) :
    (reportedAt id options r n).Sublist (reportedAt id options r' n) := by
  rw [reportedAt_eq_flatMap, reportedAt_eq_flatMap]
  exact List.Sublist.flatMap_right _ fun i _ =>
    Inspection.runFor_sublist (hr.registerAll (declaredNames n)) hid options i

theorem reportedAt_subperm (id : String) (options : Options) {r r' : Registry}
    (hr : r.Within r') (n : Node) :
    (reportedAt id options r n).Subperm (reportedAt id options r' n) := by
  rw [reportedAt_eq_flatMap, reportedAt_eq_flatMap]
  generalize Inspection.ofNode n = inspections
  induction inspections with
  | nil => exact List.nil_subperm
  | cons i rest ih =>
    rw [List.flatMap_cons, List.flatMap_cons]
    exact (Inspection.runFor_subperm (hr.registerAll (declaredNames n)) id options i).append ih

section Gains

variable {d : StateVariableDeclaration} {u v : SourceUnit}

/-- A comparison that every node keeps holds between the two runs. -/
theorem filter_run_mono {rule : Rule} (hrule : rule ∈ registryRules) {options : Options}
    {NoMore : List Diagnostic → List Diagnostic → Prop}
    (hnil : ∀ found, NoMore [] found)
    (happend : ∀ {a b c d}, NoMore a b → NoMore c d → NoMore (a ++ c) (b ++ d))
    (hnode : ∀ {r r' : Registry}, r.Within r' → ∀ n,
      NoMore (reportedAt rule.id options r n) (reportedAt rule.id options r' n))
    (h : u.GainsStateVariable d v) :
    NoMore ((run options u).filter fun x => x.ruleId == rule.id)
      ((run options v).filter fun x => x.ruleId == rule.id) := by
  rw [filter_run_eq_reported, filter_run_eq_reported,
    ← reported_contents hrule options .empty (Node.sourceUnit u).walk,
    ← reported_contents hrule options .empty (Node.sourceUnit v).walk]
  exact reported_mono hnil happend hnode (Node.contents_walk_sublist h)
    ⟨List.nodup_nil, List.Subset.refl _⟩

theorem filter_run_sublist (rule : Rule) (hrule : rule ∈ registryRules)
    (hid : rule.id ≠ Rule.cacheStateVariable.id) (options : Options)
    (h : u.GainsStateVariable d v) :
    ((run options u).filter fun x => x.ruleId == rule.id).Sublist
      ((run options v).filter fun x => x.ruleId == rule.id) :=
  filter_run_mono hrule List.nil_sublist List.Sublist.append
    (reportedAt_sublist hid options) h

theorem filter_run_subperm (rule : Rule) (hrule : rule ∈ registryRules) (options : Options)
    (h : u.GainsStateVariable d v) :
    ((run options u).filter fun x => x.ruleId == rule.id).Subperm
      ((run options v).filter fun x => x.ruleId == rule.id) :=
  filter_run_mono hrule (fun _ => List.nil_subperm) List.Subperm.append
    (reportedAt_subperm rule.id options) h

/-- **Declaring more state hides nothing.** One more state variable, in a contract or at the top of
    the file, keeps the findings about writes after a call and about lengths in loops, in their
    order; and each finding about a cached state variable is reported at least as often. -/
theorem run_gainsStateVariable (options : Options) (h : u.GainsStateVariable d v) :
    ((run options u).filter fun x => x.ruleId == "SOL-S001").Sublist
        ((run options v).filter fun x => x.ruleId == "SOL-S001")
      ∧ ((run options u).filter fun x => x.ruleId == "SOL-G006").Sublist
        ((run options v).filter fun x => x.ruleId == "SOL-G006")
      ∧ ∀ x : Diagnostic, x.ruleId = "SOL-G003" →
        (run options u).count x ≤ (run options v).count x := by
  refine ⟨filter_run_sublist Rule.reentrancy (by simp [registryRules]) (by decide) options h,
    filter_run_sublist Rule.cacheArrayLength (by simp [registryRules]) (by decide) options h,
    fun x hx => ?_⟩
  have hcount := (filter_run_subperm Rule.cacheStateVariable (by simp [registryRules]) options
    h).count_le x
  have hkept (found : List Diagnostic) :
      (found.filter fun y => y.ruleId == Rule.cacheStateVariable.id).count x = found.count x :=
    List.count_filter (beq_iff_eq.2 hx)
  rwa [hkept, hkept] at hcount

end Gains

/-- The declaration of a public state variable of type `uint`. -/
def uintState (name : String) : StateVariableDeclaration :=
  ⟨[⟨some name, ⟨"uint", .elementary, .zero⟩, .pub, none, true, false, false, false, .zero⟩],
    none, .zero⟩

/-- `contract Vault { … uint fee; uint total; uint items; function pay() external {…} }` with
    these members first. The body is `for (; i < items.length;) {} target.call(); total = …;` and
    uses `fee` and `total` three times each. -/
def countingVault (first : List Member) : SourceUnit :=
  let here : Location := .zero
  let name (text : String) : Expression := .identifier text here
  let sum (left right : Expression) : Expression := .binaryOperation "+" left right here
  let loop : Statement :=
    .forLoop none
      (some (.binaryOperation "<" (name "i") (.memberAccess (name "items") "length" here) here))
      none (some (.block [] false here)) here
  let call : Expression := .functionCall (.memberAccess (name "target") "call" here) [] [] here
  let fees : Expression := sum (name "fee") (sum (name "fee") (name "fee"))
  let write : Expression :=
    .binaryOperation "=" (name "total") (sum fees (sum (name "total") (name "total"))) here
  let pay : Member :=
    .function ⟨some "pay", .function, .external, false, [], [],
      some ⟨[loop, .expression call here, .expression write here], false, here⟩, here⟩
  ⟨[.contract ⟨"Vault", .contract, [],
    first ++ ["fee", "total", "items"].map (.stateVariable ∘ uintState) ++ [pay], here⟩], here⟩

/-- Declared first, `total` is registered before `fee`: the two findings about cached variables
    change places and none is lost. -/
theorem run_gainsStateVariable_countingVault :
    let u := countingVault []
    let v := countingVault [.stateVariable (uintState "total")]
    let found (id : String) (w : SourceUnit) := (run ⟨false⟩ w).filter fun x => x.ruleId == id
    u.GainsStateVariable (uintState "total") v
      ∧ (found "SOL-S001" u).length = 1 ∧ (found "SOL-G006" u).length = 1
      ∧ (found "SOL-G003" u).length = 2 ∧ found "SOL-G003" v = (found "SOL-G003" u).reverse
      ∧ (found "SOL-S001" u).Sublist (found "SOL-S001" v)
      ∧ (found "SOL-G006" u).Sublist (found "SOL-G006" v)
      ∧ ∀ x : Diagnostic, x.ruleId = "SOL-G003" →
        (run ⟨false⟩ u).count x ≤ (run ⟨false⟩ v).count x := by
  intro u v found
  have hgains : u.GainsStateVariable (uintState "total") v :=
    .member [] [] ⟨"Vault", .contract, [], [], .zero⟩ [] _ .zero
  refine ⟨hgains, ?_, ?_, ?_, ?_, run_gainsStateVariable ⟨false⟩ hgains⟩ <;> decide +kernel

end Engine

end SolidityLint
