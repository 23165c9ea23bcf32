import SolidityLint.Proofs.Provenance

set_option autoImplicit false

/-! # State written after an external call

The reentrancy rule, said without the check: a statement directly in a function body is reported
when an earlier statement of the same body has a low-level call anywhere in it (`CallBefore`), the
statement is an assignment to a path that starts at some name (`AssignsTo`), and that name is a
state variable declared before the function (`DeclaredIn`).

The check looks for the first such call, scans what follows it and asks a registry. Four facts
connect the two: what follows the first call is what has a call before it
(`afterLowLevelCall_eq_filter`), the member that the check finds called is the one that the callee
names (`calledMember_eq_some_iff`), the root that it computes is the start of the path
(`assignedName_eq_some_iff`), and the registry at a node holds what was declared before it
(`contains_registryOf_iff_declaredIn`). -/

namespace SolidityLint.Check

open Ast Engine

/-! ## The rule -/

/-- `e` is a path of members and indices that starts at the identifier `name`. -/
inductive RootedAt (name : String) : Expression → Prop where
  | identifier (loc : Location) : RootedAt name (.identifier name loc)
  | memberAccess {base : Expression} (member : String) (loc : Location) :
      RootedAt name base → RootedAt name (.memberAccess base member loc)
  | indexAccess {base : Expression} (index : Option Expression) (loc : Location) :
      RootedAt name base → RootedAt name (.indexAccess base index loc)

/-- `s` is an assignment, plain or compound, to a path that starts at `name`. -/
def AssignsTo (name : String) (s : Statement) : Prop :=
  ∃ operator left right loc stmtLoc,
    s = .expression (.binaryOperation operator left right loc) stmtLoc
      ∧ operator ∈ ["=", "|=", "&=", "^=", "<<=", ">>=", "+=", "-=", "*=", "/=", "%=", "**="]
      ∧ RootedAt name left

/-- The callee is `x.member`, with at most one block of options after it. -/
inductive CallsMember (member : String) : Expression → Prop where
  | bare (base : Expression) (loc : Location) : CallsMember member (.memberAccess base member loc)
  | withOptions (base : Expression) (loc : Location) (names : List String)
      (values : List Expression) (optionsLoc : Location) :
      CallsMember member (.callOptions (.memberAccess base member loc) names values optionsLoc)

/-- Some statement before position `j` has a call `x.call(...)` anywhere in it. -/
def CallBefore (statements : List Statement) (j : Nat) : Prop :=
  ∃ i < j, ∃ t, statements[i]? = some t ∧ ∃ callee arguments names loc,
    Node.expression (.functionCall callee arguments names loc) ∈ (Node.statement t).walk
      ∧ CallsMember "call" callee

/-- A declaration among `nodes` declares a state variable called `name`. -/
def DeclaredIn (nodes : List Node) (name : String) : Prop :=
  ∃ d v, Node.stateVariable d ∈ nodes ∧ v ∈ d.declared ∧ v.isStateVariable = true
    ∧ v.name = some name

/-- The statement `s` at position `j` of a body writes to state after a call, where `before` are the
    nodes met before the function. -/
def WritesAfterCall (before : List Node) (statements : List Statement) (s : Statement) (j : Nat) :
    Prop :=
  CallBefore statements j ∧ ∃ name, AssignsTo name s ∧ DeclaredIn before name

/-! ## The check's questions answer the rule's -/

theorem baseIdentifier_eq_some_iff {e : Expression} {name : String} :
    e.baseIdentifier = some name ↔ RootedAt name e := by
  constructor
  · intro h
    fun_induction Expression.baseIdentifier e with
    | case1 x loc =>
      obtain rfl := Option.some.inj h
      exact .identifier loc
    | case2 base index loc ih => exact .indexAccess index loc (ih h)
    | case3 base member loc ih => exact .memberAccess member loc (ih h)
    | case4 => exact absurd h (by simp)
  · intro h
    induction h with
    | identifier loc => rfl
    | memberAccess member loc _ ih => exact ih
    | indexAccess index loc _ ih => exact ih

theorem assignedName_eq_some_iff {s : Statement} {name : String} :
    assignedName s = some name ↔ AssignsTo name s := by
  constructor
  · intro h
    fun_cases assignedName s with
    | case1 operator left right loc stmtLoc hop =>
      simp only [assignedName, if_pos hop] at h
      exact ⟨operator, left, right, loc, stmtLoc, rfl, List.contains_iff_mem.1 hop,
        baseIdentifier_eq_some_iff.1 h⟩
    | case2 operator left right loc stmtLoc hop =>
      simp only [assignedName, if_neg hop] at h
      exact absurd h (by simp)
    | case3 s hother =>
      rw [assignedName] at h
      · exact absurd h (by simp)
      · exact hother
  · rintro ⟨operator, left, right, loc, stmtLoc, rfl, hop, hroot⟩
    have hassign : isAssignment operator = true := List.contains_iff_mem.2 hop
    rw [assignedName, if_pos hassign]
    exact baseIdentifier_eq_some_iff.2 hroot

theorem calledMember_eq_some_iff {callee : Expression} {member : String} :
    callee.calledMember = some member ↔ CallsMember member callee := by
  constructor
  · intro h
    cases callee with
    | memberAccess base called loc =>
      obtain rfl := Option.some.inj h
      exact .bare base loc
    | callOptions inner names values optionsLoc =>
      cases inner with
      | memberAccess base called loc =>
        obtain rfl := Option.some.inj h
        exact .withOptions base loc names values optionsLoc
      | _ => cases h
    | _ => cases h
  · rintro (⟨base, loc⟩ | ⟨base, loc, names, values, optionsLoc⟩)
    · rfl
    · rfl

theorem isLowLevelCall_iff {n : Node} :
    n.isLowLevelCall = true ↔ ∃ callee arguments names loc,
      n = .expression (.functionCall callee arguments names loc)
        ∧ callee.calledMember = some "call" := by
  constructor
  · intro h
    fun_cases Node.isLowLevelCall n with
    | case1 callee arguments names loc =>
      exact ⟨callee, arguments, names, loc, rfl, eq_of_beq h⟩
    | case2 n hother =>
      rw [Node.isLowLevelCall] at h
      · exact absurd h (by simp)
      · exact hother
  · rintro ⟨callee, arguments, names, loc, rfl, h⟩
    simp [Node.isLowLevelCall, h]

theorem callBefore_iff {statements : List Statement} {j : Nat} :
    CallBefore statements j
      ↔ (statements.take j).any (fun t => (Node.statement t).containsLowLevelCall) = true := by
  rw [List.any_eq_true]
  constructor
  · rintro ⟨i, hi, t, ht, callee, arguments, names, loc, hmem, hcall⟩
    refine ⟨t, List.mem_take_iff_getElem.2 ?_, ?_⟩
    · obtain ⟨hlt, rfl⟩ := List.getElem?_eq_some_iff.1 ht
      exact ⟨i, by omega, rfl⟩
    · exact Node.containsLowLevelCall_iff.2
        ⟨_, hmem, isLowLevelCall_iff.2
          ⟨callee, arguments, names, loc, rfl, calledMember_eq_some_iff.2 hcall⟩⟩
  · rintro ⟨t, ht, hcall⟩
    obtain ⟨i, hi, rfl⟩ := List.mem_take_iff_getElem.1 ht
    obtain ⟨m, hmem, hm⟩ := Node.containsLowLevelCall_iff.1 hcall
    obtain ⟨callee, arguments, names, loc, rfl, hmember⟩ := isLowLevelCall_iff.1 hm
    exact ⟨i, by omega, _, List.getElem?_eq_getElem _, callee, arguments, names, loc, hmem,
      calledMember_eq_some_iff.1 hmember⟩

theorem mem_stateVariableNames_iff {nodes : List Node} {name : String} :
    name ∈ stateVariableNames nodes ↔ DeclaredIn nodes name := by
  unfold stateVariableNames
  rw [List.mem_flatMap]
  constructor
  · rintro ⟨n, hn, hname⟩
    cases n with
    | stateVariable d =>
      obtain ⟨v, hv, hvn⟩ := List.mem_filterMap.1 hname
      obtain ⟨hmem, hstate⟩ := List.mem_filter.1 hv
      exact ⟨d, v, hn, hmem, hstate, hvn⟩
    | _ => exact absurd hname (by simp)
  · rintro ⟨d, v, hd, hv, hstate, hname⟩
    exact ⟨_, hd, List.mem_filterMap.2 ⟨v, List.mem_filter.2 ⟨hv, hstate⟩, hname⟩⟩

theorem contains_registryOf_iff_declaredIn {nodes : List Node} {name : String} :
    (registryOf nodes).contains name = true ↔ DeclaredIn nodes name := by
  rw [contains_registryOf_iff, mem_stateVariableNames_iff]

/-- The rule as a test. -/
theorem writesAfterCall_iff {before : List Node} {statements : List Statement} {s : Statement}
    {j : Nat} :
    ((statements.take j).any (fun t => (Node.statement t).containsLowLevelCall)
        && (assignedName s).any (registryOf before).contains) = true
      ↔ WritesAfterCall before statements s j := by
  rw [Bool.and_eq_true, ← callBefore_iff, Option.any_eq_true]
  refine and_congr_right fun _ => exists_congr fun name => ?_
  rw [assignedName_eq_some_iff, contains_registryOf_iff_declaredIn]

instance (before : List Node) (statements : List Statement) (s : Statement) (j : Nat) :
    Decidable (WritesAfterCall before statements s j) :=
  decidable_of_iff _ writesAfterCall_iff

/-! ## The check finds what the rule says -/

/-- The finding for a statement `s` of `f` that writes to state after a call. -/
def stateWriteFinding (f : FunctionDefinition) (s : Statement) : Diagnostic :=
  Rule.reentrancy.diagnostic
    ("do not assign to state after external call: \"" ++ (assignedName s).getD ""
      ++ "\" is written after the call in \"" ++ f.displayName ++ "\"") s.loc

/-- The findings that the rule asks for in a function, in the order of its statements, where
    `before` are the nodes met before it. -/
def stateWrites (before : List Node) (f : FunctionDefinition) : List Diagnostic :=
  match f.body with
  | none => []
  | some body =>
      (body.statements.zipIdx.filter fun (s, j) =>
        WritesAfterCall before body.statements s j).map fun (s, _) => stateWriteFinding f s

theorem stateWrite_eq_ite (registry : Registry) (f : FunctionDefinition) (s : Statement) :
    stateWrite registry f s
      = if (assignedName s).any registry.contains then [stateWriteFinding f s] else [] := by
  rw [stateWrite_eq, stateWriteFinding]
  cases assignedName s with
  | none => rfl
  | some target => rfl

/-- What follows the first statement with a call is what has a statement with a call before it. -/
theorem afterLowLevelCall_eq_filter (statements : List Statement) :
    afterLowLevelCall statements
      = (statements.zipIdx.filter fun (_, j) =>
          (statements.take j).any fun t => (Node.statement t).containsLowLevelCall).map
            Prod.fst := by
  induction statements with
  | nil => rfl
  | cons s rest ih =>
    rw [afterLowLevelCall, List.zipIdx_cons', List.filter_cons_of_neg (by simp), List.filter_map,
      List.map_map]
    by_cases hs : (Node.statement s).containsLowLevelCall = true
    · -- Every later position has `s` before it.
      rw [if_pos hs, List.filter_eq_self.2 (by simp [hs])]
      exact (List.zipIdx_map_fst 0 rest).symm
    · rw [if_neg hs, ih]
      simp [Function.comp_def, hs]

theorem flatMap_ite_eq_map_filter {α β : Type} (p : α → Bool) (f : α → β) (xs : List α) :
    (xs.flatMap fun x => if p x then [f x] else []) = (xs.filter p).map f := by
  induction xs with
  | nil => rfl
  | cons x rest ih =>
    rw [List.flatMap_cons, ih, List.filter_cons]
    split <;> simp

theorem reentrancy_registryOf (before : List Node) (f : FunctionDefinition) :
    reentrancy (registryOf before) f = stateWrites before f := by
  rw [reentrancy_eq, stateWrites]
  cases f.body with
  | none => rfl
  | some body =>
    show (afterLowLevelCall body.statements).flatMap (stateWrite (registryOf before) f) = _
    have hwrite := funext (stateWrite_eq_ite (registryOf before) f)
    rw [hwrite, flatMap_ite_eq_map_filter, afterLowLevelCall_eq_filter, List.filter_map,
      List.filter_filter, List.map_map]
    congr 1
    refine List.filter_congr fun ⟨s, j⟩ _ => ?_
    rw [Bool.and_comm, Bool.eq_iff_iff, decide_eq_true_iff]
    exact writesAfterCall_iff

/-! ## The rule in a run -/

/-- Only a function calls for the rule. -/
theorem ofNode_reentrancy (n : Node) :
    (Inspection.ofNode n).filter (Inspection.mayReport "SOL-S001")
      = match n with
        | .function f => [.reentrancy f]
        | _ => [] := by
  have hrule : Rule.reentrancy ∈ Inspection.functionRules := by simp [Inspection.functionRules]
  refine (Inspection.filter_ofNode_of_mem_functionRules hrule n).trans ?_
  cases n with
  | function f =>
    show (Inspection.ofFunction f).filter _ = _
    unfold Inspection.ofFunction
    split <;> rfl
  | _ => rfl

theorem emitted_reentrancy (options : Options) (before : List Node) (n : Node) :
    (emitted options (registryOf before) n).filter (fun d => d.ruleId == "SOL-S001")
      = match n with
        | .function f => stateWrites before f
        | _ => [] := by
  rw [emitted_eq_findings, filter_findings, ofNode_reentrancy]
  cases n with
  | function f =>
    -- A function declares no state variable, so its registry is that of the nodes before it.
    show Inspection.runFor Rule.reentrancy.id options (registryOf before) (.reentrancy f) ++ [] = _
    rw [List.append_nil, Inspection.runFor_eq_run rfl]
    exact reentrancy_registryOf before f
  | _ => rfl

/-- **The reentrancy findings of a run.** They are, function by function in the order of the walk
    and statement by statement in the order of the body, one finding at each statement that writes
    to state after a call, and no other. -/
theorem run_reentrancy_eq_stateWrites (options : Options) (unit : SourceUnit) :
    (run options unit).filter (fun d => d.ruleId == "SOL-S001")
      = (Node.sourceUnit unit).walk.zipIdx.flatMap fun (n, i) =>
          match n with
          | .function f => stateWrites ((Node.sourceUnit unit).walk.take i) f
          | _ => [] := by
  rw [filter_run]
  exact congrArg (List.flatMap · _)
    (funext fun (n, i) => emitted_reentrancy options ((Node.sourceUnit unit).walk.take i) n)

end SolidityLint.Check
