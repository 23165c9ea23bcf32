import Mathlib.Data.List.Flatten
import Mathlib.Data.Multiset.AddSub
import SolidityLint.Proofs.Pass

set_option autoImplicit false

/-! # Legacy mode only adds short-circuit notes

One check reads the options: the one for the operator of a binary operation. In legacy mode it makes
two more notes at `<=` and one more at `&&`, after what it finds there anyway. This file compares
the two passes over a file.

The step lemma is `Engine.emitted_legacy`: at every node legacy mode emits what the default emits,
and then the notes of `Engine.addedNotes`. The run lemma is `Engine.run_legacy`; that the rest of
the findings is the same, in the same order, and how many notes are added, are read off it. -/

namespace SolidityLint

open Ast

/-! ## Operators in the tree -/

namespace Ast.Node

/-- The operator of a node that is a binary operation. -/
def operator? : Node → Option String
  | expression (.binaryOperation operator _ _ _) => some operator
  | _ => none

/-- Is `n` a binary operation with that operator? -/
def isOperation (operator : String) (n : Node) : Bool :=
  n.operator? == some operator

theorem operator?_eq_some {n : Node} {operator : String} (h : n.operator? = some operator) :
    ∃ left right loc, n = .expression (.binaryOperation operator left right loc) := by
  unfold operator? at h
  split at h
  · obtain rfl := Option.some.inj h
    exact ⟨_, _, _, rfl⟩
  · cases h

end Ast.Node

/-! ## The one check that reads the options -/

namespace Check

/-- The note that a condition could be put first. -/
def shortCircuitNote (loc : Location) : Diagnostic :=
  Rule.shortCircuit.diagnostic
    "put the cheaper condition first to benefit from short-circuit evaluation" loc

/-- How many notes more than by default legacy mode makes for an operator. -/
def addedCount (operator : String) : Nat :=
  (if operator = "<=" then 2 else 0) + if operator = "&&" then 1 else 0

theorem shortCircuitNotes_legacy (operator : String) :
    shortCircuitNotes true operator = shortCircuitNotes false operator + addedCount operator := by
  unfold shortCircuitNotes addedCount
  split
  · rfl
  · rfl
  · rfl
  · next hle hand _ => rw [if_neg hle, if_neg hand]

theorem comparisonOperator_legacy (operator : String) (loc : Location) :
    comparisonOperator true operator loc
      = comparisonOperator false operator loc
        ++ List.replicate (addedCount operator) (shortCircuitNote loc) := by
  rw [comparisonOperator_eq, comparisonOperator_eq, shortCircuitNotes_legacy,
    List.replicate_add, List.append_assoc]
  rfl

end Check

namespace Inspection

/-- Does the inspection read the options? -/
def readsOptions : Inspection → Bool
  | comparisonOperator .. => true
  | _ => false

theorem run_eq_of_readsOptions {i : Inspection} (h : i.readsOptions = false)
    (options options' : Options) (registry : Registry) :
    i.run options registry = i.run options' registry := by
  cases i with
  | comparisonOperator operator loc => cases h
  | _ => rfl

/-- Binary operations, and no other nodes, call for an inspection that reads the options. -/
theorem any_readsOptions_ofNode (n : Node) :
    (ofNode n).any readsOptions = n.operator?.isSome := by
  cases n with
  | function f =>
    show (ofFunction f).any readsOptions = false
    unfold ofFunction
    split <;> rfl
  | stateVariable d => simp [ofNode, readsOptions, Node.operator?]
  | statement s =>
    cases s with
    | forLoop init condition update body loc => cases update <;> rfl
    | _ => rfl
  | expression e => cases e <;> rfl
  | _ => rfl

end Inspection

namespace Engine

/-! ## One node -/

/-- The notes that legacy mode adds at a node. -/
def addedNotes (n : Node) : List Diagnostic :=
  match n.operator? with
  | some operator => List.replicate (Check.addedCount operator) (Check.shortCircuitNote n.loc)
  | none => []

theorem findings_legacy (registry : Registry) (n : Node) :
    findings ⟨true⟩ registry n = findings ⟨false⟩ registry n ++ addedNotes n := by
  cases hn : n.operator? with
  | some operator =>
    obtain ⟨left, right, loc, rfl⟩ := Node.operator?_eq_some hn
    have hstep := Check.comparisonOperator_legacy operator loc
    have hfindings : ∀ legacy, findings ⟨legacy⟩ registry
        (.expression (.binaryOperation operator left right loc))
          = Check.comparisonOperator legacy operator loc := by
      intro legacy
      rw [findings_eq]
      exact List.flatMap_singleton ..
    rw [hfindings, hfindings, hstep]
    rfl
  | none =>
    have hsame : ∀ i ∈ Inspection.ofNode n,
        i.run ⟨true⟩ registry = i.run ⟨false⟩ registry := by
      intro i hi
      refine Inspection.run_eq_of_readsOptions (Bool.eq_false_iff.2 fun hreads => ?_) _ _ _
      have hany := List.any_eq_true.2 ⟨i, hi, hreads⟩
      rw [Inspection.any_readsOptions_ofNode, hn] at hany
      cases hany
    have hnone : addedNotes n = [] := by simp only [addedNotes, hn]
    rw [hnone, List.append_nil, findings_eq, findings_eq]
    exact List.flatMap_congr hsame

theorem emitted_legacy (registry : Registry) (n : Node) :
    emitted ⟨true⟩ registry n = emitted ⟨false⟩ registry n ++ addedNotes n := by
  rw [emitted_eq_findings, emitted_eq_findings, findings_legacy]

theorem length_addedNotes (n : Node) :
    (addedNotes n).length
      = 2 * (if n.isOperation "<=" then 1 else 0) + if n.isOperation "&&" then 1 else 0 := by
  unfold addedNotes Node.isOperation
  cases n.operator? with
  | none => rfl
  | some operator =>
    simp only [List.length_replicate, Check.addedCount, beq_iff_eq, Option.some.injEq]
    split <;> split <;> rfl

/-- What is added at a node is a short-circuit note for one of the two operators. -/
theorem of_mem_addedNotes {n : Node} {d : Diagnostic} (h : d ∈ addedNotes n) :
    d.ruleId = Rule.shortCircuit.id ∧ d.location = n.loc
      ∧ (n.isOperation "<=" = true ∨ n.isOperation "&&" = true) := by
  have hpos := List.length_pos_of_mem h
  rw [length_addedNotes] at hpos
  have hoperator : n.isOperation "<=" = true ∨ n.isOperation "&&" = true := by
    by_contra hnone
    rw [not_or] at hnone
    rw [if_neg hnone.1, if_neg hnone.2] at hpos
    omega
  unfold addedNotes at h
  cases hn : n.operator? with
  | none => simp only [hn, List.not_mem_nil] at h
  | some operator =>
    simp only [hn] at h
    rw [List.eq_of_mem_replicate h]
    exact ⟨rfl, rfl, hoperator⟩

/-! ## A whole pass -/

section Run

variable (u : SourceUnit)

/-- What the nodes of a file emit by default, the one at position `i` of the walk with the registry
    of the nodes before it. -/
def emittedAt (n : Node × Nat) : List Diagnostic :=
  emitted ⟨false⟩ (registryOf ((Node.sourceUnit u).walk.take n.2)) n.1

theorem run_default : run ⟨false⟩ u = (Node.sourceUnit u).walk.zipIdx.flatMap (emittedAt u) :=
  run_eq_emittedAlong ⟨false⟩ u

/-- **Where the notes go.** The pass in legacy mode is the pass by default with the notes of each
    node put in after what the node emits. -/
theorem run_legacy :
    run ⟨true⟩ u = (Node.sourceUnit u).walk.zipIdx.flatMap fun n =>
      emittedAt u n ++ addedNotes n.1 := by
  rw [run_eq_emittedAlong]
  exact List.flatMap_congr fun n _ => emitted_legacy _ n.1

/-- All the notes that legacy mode adds, in the order of the walk. -/
def allAddedNotes : List Diagnostic :=
  (Node.sourceUnit u).walk.flatMap addedNotes

theorem run_legacy_perm : (run ⟨true⟩ u).Perm (run ⟨false⟩ u ++ allAddedNotes u) := by
  have hnotes : allAddedNotes u
      = (Node.sourceUnit u).walk.zipIdx.flatMap fun n => addedNotes n.1 := by
    rw [← List.flatMap_map, List.zipIdx_map_fst]
    rfl
  rw [run_legacy, run_default, hnotes]
  exact (List.flatMap_append_perm ..).symm

theorem length_flatMap_addedNotes (nodes : List Node) :
    (nodes.flatMap addedNotes).length
      = 2 * nodes.countP (Node.isOperation "<=") + nodes.countP (Node.isOperation "&&") := by
  induction nodes with
  | nil => rfl
  | cons n rest ih =>
    rw [List.flatMap_cons, List.length_append, length_addedNotes, ih, List.countP_cons,
      List.countP_cons]
    omega

/-- Without the short-circuit notes nothing is left of what a node gains. -/
theorem filter_addedNotes (n : Node) :
    (addedNotes n).filter (fun d => d.ruleId != Rule.shortCircuit.id) = [] := by
  rw [List.filter_eq_nil_iff]
  intro d hd
  simp [(of_mem_addedNotes hd).1]

theorem filter_run_legacy :
    (run ⟨true⟩ u).filter (fun d => d.ruleId != Rule.shortCircuit.id)
      = (run ⟨false⟩ u).filter fun d => d.ruleId != Rule.shortCircuit.id := by
  rw [run_legacy, run_default, List.filter_flatMap, List.filter_flatMap]
  refine List.flatMap_congr fun n _ => ?_
  rw [List.filter_append, filter_addedNotes, List.append_nil]

theorem run_sublist_run_legacy : (run ⟨false⟩ u).Sublist (run ⟨true⟩ u) := by
  rw [run_legacy, run_default]
  exact List.Sublist.flatMap_right _ fun n _ => List.sublist_append_left ..

/-- What is left of the findings in legacy mode when those by default are taken out. -/
theorem diff_run_legacy_perm : ((run ⟨true⟩ u).diff (run ⟨false⟩ u)).Perm (allAddedNotes u) := by
  refine ((run_legacy_perm u).diff_right _).trans (Multiset.coe_eq_coe.1 ?_)
  rw [← Multiset.coe_sub, ← Multiset.coe_add, Multiset.add_comm, Multiset.add_sub_cancel_right]

/-- **Legacy mode only adds short-circuit notes.** Apart from those notes both passes find the same,
    in the same order; the findings by default are found in legacy mode too, in the same order; two
    are added for each `<=` of the walk and one for each `&&`; and every finding that is added is a
    short-circuit note at such a node. -/
theorem run_legacy_adds_notes :
    (run ⟨true⟩ u).filter (fun d => d.ruleId != Rule.shortCircuit.id)
        = (run ⟨false⟩ u).filter (fun d => d.ruleId != Rule.shortCircuit.id)
    ∧ (run ⟨false⟩ u).Sublist (run ⟨true⟩ u)
    ∧ (run ⟨true⟩ u).length = (run ⟨false⟩ u).length
        + (2 * (Node.sourceUnit u).walk.countP (Node.isOperation "<=")
          + (Node.sourceUnit u).walk.countP (Node.isOperation "&&"))
    ∧ ∀ d ∈ (run ⟨true⟩ u).diff (run ⟨false⟩ u), d.ruleId = Rule.shortCircuit.id
        ∧ ∃ n ∈ (Node.sourceUnit u).walk, d.location = n.loc
          ∧ (n.isOperation "<=" = true ∨ n.isOperation "&&" = true) := by
  refine ⟨filter_run_legacy u, run_sublist_run_legacy u, ?_, ?_⟩
  · rw [(run_legacy_perm u).length_eq, List.length_append]
    exact congrArg _ (length_flatMap_addedNotes (Node.sourceUnit u).walk)
  · intro d hd
    rw [(diff_run_legacy_perm u).mem_iff, allAddedNotes, List.mem_flatMap] at hd
    obtain ⟨n, hn, hd⟩ := hd
    obtain ⟨hrule, hloc, hoperator⟩ := of_mem_addedNotes hd
    exact ⟨hrule, n, hn, hloc, hoperator⟩

end Run

end Engine

end SolidityLint
