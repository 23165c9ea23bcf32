import SolidityLint.Proofs.Reentrancy

set_option autoImplicit false

/-! # State variables that a function uses often

The search for low-level calls and the count of identifiers each go down the tree on their own. Said
about the walk, the one asks whether a call is visited, the other how many visited nodes are the
identifier (`Node.IsUse`). The caching rule follows: a function gets one finding for each registered
name of which its body visits more than two uses (`oftenUsed`), in the order of registration, and no
other check of any node reports that rule. -/

namespace SolidityLint

open Ast

/-! ## Uses of a name -/

namespace Ast.Node

/-- `n` is the identifier `name`. -/
def IsUse (name : String) (n : Node) : Prop :=
  ∃ loc, n = .expression (.identifier name loc)

theorem isIdentifierNamed_iff {name : String} {n : Node} :
    n.isIdentifierNamed name = true ↔ n.IsUse name := by
  constructor
  · intro h
    fun_cases isIdentifierNamed name n with
    | case1 x loc =>
      obtain rfl := eq_of_beq h
      exact ⟨loc, rfl⟩
    | case2 n hother =>
      rw [isIdentifierNamed] at h
      · exact absurd h (by simp)
      · exact hother
  · rintro ⟨loc, rfl⟩
    simp [isIdentifierNamed]

instance (name : String) (n : Node) : Decidable (n.IsUse name) :=
  decidable_of_iff _ isIdentifierNamed_iff

/-- How many nodes at and below `n` are the identifier `name`. -/
def uses (n : Node) (name : String) : Nat :=
  n.walk.countP fun m => m.IsUse name

theorem countIdentifier_eq_uses (name : String) (n : Node) :
    n.countIdentifier name = n.uses name := by
  rw [countIdentifier_eq_countP_walk]
  refine List.countP_congr fun m _ => ?_
  rw [decide_eq_true_iff, isIdentifierNamed_iff]

/-- A low-level call is found exactly when the walk meets a call of a member `call`. -/
theorem containsLowLevelCall_iff_call {n : Node} :
    n.containsLowLevelCall = true ↔ ∃ callee arguments names loc,
      Node.expression (.functionCall callee arguments names loc) ∈ n.walk
        ∧ callee.calledMember = some "call" := by
  rw [containsLowLevelCall_iff]
  constructor
  · rintro ⟨m, hmem, hcall⟩
    obtain ⟨callee, arguments, names, loc, rfl, hmember⟩ := Check.isLowLevelCall_iff.1 hcall
    exact ⟨callee, arguments, names, loc, hmem, hmember⟩
  · rintro ⟨callee, arguments, names, loc, hmem, hmember⟩
    exact ⟨_, hmem, Check.isLowLevelCall_iff.2 ⟨callee, arguments, names, loc, rfl, hmember⟩⟩

end Ast.Node

namespace Check

open Engine

/-! ## The rule at a function -/

/-- The finding for a state variable that the body of `f` uses `count` times. -/
def cachingNote (f : FunctionDefinition) (name : String) (count : Nat) : Diagnostic :=
  Rule.cacheStateVariable.diagnostic
    ("cache state variable \"" ++ name ++ "\" in a local variable: it is used "
      ++ toString count ++ " times in function \"" ++ f.displayName ++ "\"") f.loc

/-- The findings that the rule asks for in a function: one for each of the names that its body uses
    more than twice, in their order. -/
def oftenUsed (names : List String) (f : FunctionDefinition) : List Diagnostic :=
  match f.body with
  | none => []
  | some body =>
      (names.filter fun name => 2 < (Node.body body).uses name).map fun name =>
        cachingNote f name ((Node.body body).uses name)

theorem stateVariableCaching_eq_oftenUsed (registry : Registry) (f : FunctionDefinition) :
    stateVariableCaching registry f = oftenUsed registry.names f := by
  rw [stateVariableCaching_eq]
  unfold oftenUsed
  cases f.body with
  | none => rfl
  | some body =>
    have hname : cacheName f body = fun name =>
        if decide (2 < (Node.body body).uses name) = true then
          [cachingNote f name ((Node.body body).uses name)]
        else [] := by
      funext name
      rw [cacheName, Node.countIdentifier_eq_uses]
      simp only [decide_eq_true_eq]
      rfl
    show registry.names.flatMap (cacheName f body) = _
    rw [hname, flatMap_ite_eq_map_filter]

/-- Only a function calls for the rule. -/
theorem ofNode_stateVariableCaching (n : Node) :
    (Inspection.ofNode n).filter (Inspection.mayReport "SOL-G003")
      = match n with
        | .function f => [.stateVariableCaching f]
        | _ => [] := by
  have hrule : Rule.cacheStateVariable ∈ Inspection.functionRules := by
    simp [Inspection.functionRules]
  refine (Inspection.filter_ofNode_of_mem_functionRules hrule n).trans ?_
  cases n with
  | function f =>
    show (Inspection.ofFunction f).filter _ = _
    unfold Inspection.ofFunction
    split <;> rfl
  | _ => rfl

theorem findings_cacheStateVariable (options : Options) (registry : Registry) (n : Node) :
    (findings options registry n).filter (fun d => d.ruleId == "SOL-G003")
      = match n with
        | .function f => oftenUsed registry.names f
        | _ => [] := by
  rw [filter_findings, ofNode_stateVariableCaching]
  cases n with
  | function f =>
    show Inspection.runFor Rule.cacheStateVariable.id options registry (.stateVariableCaching f)
      ++ [] = _
    rw [List.append_nil, Inspection.runFor_eq_run rfl]
    exact stateVariableCaching_eq_oftenUsed registry f
  | _ => rfl

/-! ## The rule in a run -/

theorem emitted_cacheStateVariable (options : Options) (before : List Node) (n : Node) :
    (emitted options (registryOf before) n).filter (fun d => d.ruleId == "SOL-G003")
      = match n with
        | .function f => oftenUsed (stateVariableNames before).eraseDups f
        | _ => [] := by
  rw [emitted_eq_findings, findings_cacheStateVariable]
  cases n <;> rfl

/-- **The queries below a node are read off its walk**, and with them the findings on state
    variables to cache. A low-level call is found exactly when the walk meets one, and a name is
    counted once for each identifier of that name that the walk meets. At a function, whatever is
    registered, the rule has one finding for each registered name of which the walk of the body
    meets more than two, in the order of registration; in a run, the registered names are the
    distinct ones declared before the function, and no other node has a finding. -/
theorem queries_read_off_walk :
    (∀ n : Node, n.containsLowLevelCall = true ↔ ∃ callee arguments names loc,
      Node.expression (.functionCall callee arguments names loc) ∈ n.walk
        ∧ callee.calledMember = some "call")
    ∧ (∀ (n : Node) (name : String),
        n.countIdentifier name = n.walk.countP fun m => m.IsUse name)
    ∧ (∀ (options : Options) (registry : Registry) (f : FunctionDefinition),
        stateVariableCaching registry f = oftenUsed registry.names f
        ∧ (findings options registry (.function f)).filter (fun d => d.ruleId == "SOL-G003")
          = oftenUsed registry.names f)
    ∧ ∀ (options : Options) (unit : SourceUnit),
        (run options unit).filter (fun d => d.ruleId == "SOL-G003")
          = (Node.sourceUnit unit).walk.zipIdx.flatMap fun (n, i) =>
              match n with
              | .function f =>
                  oftenUsed
                    (stateVariableNames ((Node.sourceUnit unit).walk.take i)).eraseDups f
              | _ => [] := by
  refine ⟨?_, ?_, ?_, ?_⟩
  · intro n
    exact Node.containsLowLevelCall_iff_call
  · intro n name
    exact Node.countIdentifier_eq_uses name n
  · intro options registry f
    exact ⟨stateVariableCaching_eq_oftenUsed registry f,
      findings_cacheStateVariable options registry (.function f)⟩
  · intro options unit
    rw [filter_run]
    refine congrArg (List.flatMap · _) (funext fun (n, i) => ?_)
    exact emitted_cacheStateVariable options ((Node.sourceUnit unit).walk.take i) n

end Check

end SolidityLint
