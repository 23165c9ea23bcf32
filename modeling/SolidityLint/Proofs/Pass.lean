import SolidityLint.Proofs.ContextSteps
import SolidityLint.Proofs.Walk

set_option autoImplicit false

/-! # The pass factors over the walk

`Engine.run` folds one context along the walk. This file takes the fold apart: what the pass emits
at a node is what it would emit there from an empty list of findings (`Engine.emitted`), given the
registry of the nodes before it (`Engine.registryOf`), and the run is the concatenation of these
pieces in the order of the walk.

Meeting a node is a sequence of steps on the context (`Engine.visit_eq_takeSteps`): its names are
registered and its inspections are run. So what is known of steps holds of the pass. The step lemma
is `Engine.visit_registryOf`, the run lemma `Engine.foldl_visit`. -/

namespace SolidityLint

open Ast

namespace Engine

/-! ## What a list of nodes declares -/

/-- The names of the named state variables in the declarations among `nodes`, in order. -/
def stateVariableNames (nodes : List Node) : List String :=
  nodes.flatMap fun
    | .stateVariable d => (d.declared.filter (·.isStateVariable)).filterMap (·.name)
    | _ => []

theorem stateVariableNames_append (before after : List Node) :
    stateVariableNames (before ++ after) = stateVariableNames before ++ stateVariableNames after :=
  List.flatMap_append

theorem stateVariableNames_singleton (n : Node) : stateVariableNames [n] = declaredNames n := by
  cases n <;> simp [stateVariableNames, declaredNames, List.filterMap_filter]

/-- The distinct names that `nodes` declare, each at its first occurrence. -/
def registryOf (nodes : List Node) : Registry :=
  ⟨(stateVariableNames nodes).eraseDups⟩

theorem registryOf_concat (nodes : List Node) (n : Node) :
    registryOf (nodes ++ [n]) = (registryOf nodes).registerAll (declaredNames n) := by
  unfold registryOf
  rw [Registry.registerAll_eraseDups, stateVariableNames_append, stateVariableNames_singleton]

theorem contains_registryOf_iff {nodes : List Node} {name : String} :
    (registryOf nodes).contains name = true ↔ name ∈ stateVariableNames nodes := by
  simp [registryOf, Registry.contains]

/-! ## One node -/

/-- The steps that meeting a node takes: it registers the names that the node declares, then runs
    the node's inspections. -/
def stepsAt (options : Options) (n : Node) : List (Options × Step) :=
  ((declaredNames n).map Step.register ++ (Inspection.ofNode n).map Step.inspect).map (options, ·)

theorem visit_eq_takeSteps (options : Options) (c : Context) (n : Node) :
    visit options c n = c.takeSteps (stepsAt options n) := by
  simp [visit, stepsAt, Context.takeSteps, List.foldl_map, Context.step]

theorem registered_stepsAt (options : Options) (n : Node) :
    Context.registered (stepsAt options n) = declaredNames n := by
  simp [Context.registered, stepsAt, List.filterMap_map, Function.comp_def, Step.registers]

/-- What meeting a node adds to an empty list of findings. -/
def emitted (options : Options) (registry : Registry) (n : Node) : List Diagnostic :=
  (visit options ⟨registry, []⟩ n).diagnostics

theorem visit_registry (options : Options) (c : Context) (n : Node) :
    (visit options c n).registry = c.registry.registerAll (declaredNames n) := by
  rw [visit_eq_takeSteps, Context.registry_takeSteps, registered_stepsAt]

/-- Meeting a node only appends, and what it appends does not depend on what is there. -/
theorem visit_eq (options : Options) (c : Context) (n : Node) :
    visit options c n
      = ⟨(visit options ⟨c.registry, []⟩ n).registry,
          c.diagnostics ++ emitted options c.registry n⟩ := by
  unfold emitted
  rw [visit_eq_takeSteps, visit_eq_takeSteps, Context.takeSteps_eq]

theorem visit_diagnostics (options : Options) (c : Context) (n : Node) :
    (visit options c n).diagnostics = c.diagnostics ++ emitted options c.registry n := by
  rw [visit_eq]

/-- What the inspections of a node report, given what is registered once its own names are. -/
def findings (options : Options) (registry : Registry) (n : Node) : List Diagnostic :=
  Context.found (fun c => (Inspection.ofNode n).foldl (Context.inspect options) c) registry

theorem findings_eq (options : Options) (registry : Registry) (n : Node) :
    findings options registry n
      = (Inspection.ofNode n).flatMap (Inspection.run options registry) :=
  Context.Appends.found_eq (.foldl _ (Context.appends_inspect options)) registry

theorem foldl_register (c : Context) (names : List String) :
    names.foldl Context.register c = { c with registry := c.registry.registerAll names } := by
  induction names generalizing c with
  | nil => rfl
  | cons name rest ih => exact ih (c.register name)

theorem emitted_eq_findings (options : Options) (registry : Registry) (n : Node) :
    emitted options registry n
      = findings options (registry.registerAll (declaredNames n)) n := by
  unfold emitted visit
  rw [foldl_register]
  rfl

theorem visit_registryOf (options : Options) (before : List Node) (found : List Diagnostic)
    (n : Node) :
    visit options ⟨registryOf before, found⟩ n
      = ⟨registryOf (before ++ [n]), found ++ emitted options (registryOf before) n⟩ := by
  rw [visit_eq, visit_registry, registryOf_concat]

/-! ## A run of nodes -/

/-- What a pass over `nodes` emits, node by node: the one at position `i` with the registry of the
    nodes before it. -/
def emittedAlong (options : Options) (nodes : List Node) : List Diagnostic :=
  nodes.zipIdx.flatMap fun (n, i) => emitted options (registryOf (nodes.take i)) n

/-- The context in which a pass over `nodes` meets the node at position `i`. -/
def contextAt (options : Options) (nodes : List Node) (i : Nat) : Context :=
  (nodes.take i).foldl (visit options) .empty

theorem foldl_visit_from (options : Options) (before rest : List Node)
    (found : List Diagnostic) :
    rest.foldl (visit options) ⟨registryOf before, found⟩
      = ⟨registryOf (before ++ rest),
          found ++ (rest.zipIdx before.length).flatMap fun (n, i) =>
            emitted options (registryOf ((before ++ rest).take i)) n⟩ := by
  induction rest generalizing before found with
  | nil => simp
  | cons n rest ih =>
    -- The node joins those before it; positions count from the start of the whole list.
    have hlength : (before ++ [n]).length = before.length + 1 := by simp
    have htake : (before ++ n :: rest).take before.length = before := by simp
    rw [List.foldl_cons, visit_registryOf, ih, hlength, List.append_assoc, List.singleton_append,
      List.zipIdx_cons, List.flatMap_cons]
    simp only [htake, List.append_assoc]

theorem foldl_visit (options : Options) (nodes : List Node) :
    nodes.foldl (visit options) .empty = ⟨registryOf nodes, emittedAlong options nodes⟩ :=
  foldl_visit_from options [] nodes []

theorem visit_of_declaredNames_eq_nil (options : Options) (c : Context) {n : Node}
    (h : declaredNames n = []) :
    visit options c n = ⟨c.registry, c.diagnostics ++ findings options c.registry n⟩ := by
  rw [visit_eq, visit_registry, emitted_eq_findings, h]
  rfl

/-- Nodes that declare nothing leave the registry alone. -/
theorem foldl_visit_of_declaredNames_eq_nil (options : Options) {nodes : List Node}
    (h : ∀ n ∈ nodes, declaredNames n = []) (c : Context) :
    nodes.foldl (visit options) c
      = ⟨c.registry, c.diagnostics ++ nodes.flatMap (findings options c.registry)⟩ := by
  induction nodes generalizing c with
  | nil => simp
  | cons n rest ih =>
    have hn := h n (List.mem_cons_self ..)
    have hrest := fun m hm => h m (List.mem_cons_of_mem n hm)
    rw [List.foldl_cons, visit_of_declaredNames_eq_nil options c hn, ih hrest, List.flatMap_cons,
      List.append_assoc]

theorem contextAt_eq (options : Options) (nodes : List Node) (i : Nat) :
    contextAt options nodes i
      = ⟨registryOf (nodes.take i), emittedAlong options (nodes.take i)⟩ :=
  foldl_visit options (nodes.take i)

theorem run_eq_emittedAlong (options : Options) (unit : SourceUnit) :
    run options unit = emittedAlong options (Node.sourceUnit unit).walk := by
  unfold run
  rw [foldl_visit]

/-- **The single pass factors over the walk.** Threading one context through the tree gives the run.
    When the node at position `i` of the walk is met, the registry holds exactly the distinct names
    declared before it and the findings are what the nodes before it emit, so no later node counts;
    the run is the concatenation of what each node emits; and a node emits the same whatever has
    been found already, for meeting it is to register its names and run its inspections, step by
    step. -/
theorem run_factors_over_walk (options : Options) (unit : SourceUnit) :
    run options unit = ((Node.sourceUnit unit).thread (visit options) .empty).diagnostics
    ∧ (∀ i, contextAt options (Node.sourceUnit unit).walk i
        = ⟨registryOf ((Node.sourceUnit unit).walk.take i),
            emittedAlong options ((Node.sourceUnit unit).walk.take i)⟩)
    ∧ run options unit = (Node.sourceUnit unit).walk.zipIdx.flatMap (fun (n, i) =>
        emitted options (registryOf ((Node.sourceUnit unit).walk.take i)) n)
    ∧ (∀ c n, visit options c n
        = ⟨(visit options ⟨c.registry, []⟩ n).registry,
            c.diagnostics ++ emitted options c.registry n⟩)
    ∧ ∀ c n, visit options c n
        = ((declaredNames n).map Step.register ++ (Inspection.ofNode n).map Step.inspect).foldl
            (fun c s => (c.step options s).1) c := by
  refine ⟨?_, ?_, ?_, ?_, ?_⟩
  · rw [Node.thread_eq_foldl_walk]
    rfl
  · exact contextAt_eq options (Node.sourceUnit unit).walk
  · exact run_eq_emittedAlong options unit
  · exact visit_eq options
  · intro c n
    rw [visit_eq_takeSteps, Context.takeSteps, stepsAt, List.foldl_map]

end Engine

end SolidityLint
