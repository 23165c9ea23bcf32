import SolidityLint.Ast.Node

set_option autoImplicit false

/-! # Laws of the walk

Everything that looks below a node (the walk, the search for low-level calls, the count of
identifiers, a pass that threads a state through the tree) is defined by recursion through
`Node.children`. This file has the induction that goes with that recursion, and uses it to read each
of them off the list of visited nodes: the search is an `any` over the walk, the count is a count
among the names that the walk meets, and a threaded state is a `foldl`. Later proofs speak about the
walk only. -/

namespace SolidityLint.Ast.Node

/-- What a node inherits from the nodes directly below it holds of every node. -/
@[elab_as_elim]
theorem childInduction {P : Node → Prop} (step : ∀ n, (∀ c ∈ n.children, P c) → P n) (n : Node) :
    P n :=
  step n fun c _ => childInduction step c
termination_by sizeOf n
decreasing_by exact sizeOf_lt_of_mem_children (by assumption)

/-! ## What is gathered along the walk -/

section Gather

variable {β : Type} (f : Node → Option β)

/-- What a node gives comes before what the nodes below it give. -/
theorem filterMap_walk_eq (n : Node) :
    n.walk.filterMap f = (f n).toList ++ n.children.flatMap fun c => c.walk.filterMap f := by
  rw [walk_eq, List.filterMap_cons, List.filterMap_flatMap]
  cases f n <;> rfl

/-- Below an expression there are only expressions. -/
theorem filterMap_walk_expression (h : ∀ e, f (expression e) = none) (e : Expression) :
    (expression e).walk.filterMap f = [] := by
  generalize hn : expression e = n
  induction n using childInduction generalizing e with
  | step n ih =>
    subst hn
    rw [filterMap_walk_eq, h, children, List.flatMap_map]
    refine List.flatMap_eq_nil_iff.2 fun c hc => ?_
    exact ih _ (List.mem_map_of_mem hc) c rfl

end Gather

/-! ## Queries below a node -/

theorem containsLowLevelCall_eq_any_walk (n : Node) :
    n.containsLowLevelCall = n.walk.any isLowLevelCall := by
  induction n using childInduction with
  | step n ih =>
    rw [containsLowLevelCall_eq, walk_eq, List.any_cons, List.any_flatMap]
    congr 1
    rw [Bool.eq_iff_iff, List.any_eq_true, List.any_eq_true]
    constructor
    · rintro ⟨c, hc, h⟩
      exact ⟨c, hc, (ih c hc).symm.trans h⟩
    · rintro ⟨c, hc, h⟩
      exact ⟨c, hc, (ih c hc).trans h⟩

/-- A low-level call is found exactly when the walk meets one. -/
theorem containsLowLevelCall_iff {n : Node} :
    n.containsLowLevelCall = true ↔ ∃ m ∈ n.walk, m.isLowLevelCall = true := by
  rw [containsLowLevelCall_eq_any_walk, List.any_eq_true]

theorem countIdentifier_eq_countP_walk (name : String) (n : Node) :
    n.countIdentifier name = n.walk.countP (isIdentifierNamed name) := by
  induction n using childInduction with
  | step n ih =>
    rw [countIdentifier_eq, walk_eq, List.countP_cons, Nat.add_comm]
    congr 1
    -- The total over the children, one child at a time.
    generalize n.children = children at ih ⊢
    induction children with
    | nil => rfl
    | cons c rest ihRest =>
      rw [List.foldr_cons, List.flatMap_cons, List.countP_append, ih c (List.mem_cons_self ..),
        ihRest fun d hd => ih d (List.mem_cons_of_mem _ hd)]

/-- The name of a node that is an identifier. -/
def identifierName : Node → Option String
  | expression e => e.identifierName
  | _ => none

/-- The names of the identifiers at and below `n`, in the order of the walk. -/
def identifiers (n : Node) : List String := n.walk.filterMap identifierName

theorem isIdentifierNamed_eq (name : String) (n : Node) :
    n.isIdentifierNamed name = (n.identifierName == some name) := by
  cases n with
  | expression e => cases e <;> rfl
  | _ => rfl

theorem countIdentifier_eq_count (name : String) (n : Node) :
    n.countIdentifier name = n.identifiers.count name := by
  rw [countIdentifier_eq_countP_walk, identifiers, List.count_filterMap]
  exact congrArg (List.countP · n.walk) (funext (isIdentifierNamed_eq name))

/-! ## A state threaded through the tree -/

/-- Threads a state through the tree: the node first, then what is below it from left to right. -/
def thread {σ : Type} (visit : σ → Node → σ) (s : σ) (n : Node) : σ :=
  n.children.attach.foldl (fun s ⟨c, _⟩ => c.thread visit s) (visit s n)
termination_by sizeOf n
decreasing_by exact sizeOf_lt_of_mem_children (by assumption)

theorem thread_eq {σ : Type} (visit : σ → Node → σ) (s : σ) (n : Node) :
    n.thread visit s = n.children.foldl (fun s c => c.thread visit s) (visit s n) := by
  rw [thread]
  simp

/-- **A threaded state is a fold along the walk.** -/
theorem thread_eq_foldl_walk {σ : Type} (visit : σ → Node → σ) (n : Node) :
    ∀ s, n.thread visit s = n.walk.foldl visit s := by
  induction n using childInduction with
  | step n ih =>
    intro s
    rw [thread_eq, walk_eq, List.foldl_cons, List.foldl_flatMap]
    generalize visit s n = t
    generalize n.children = children at ih ⊢
    induction children generalizing t with
    | nil => rfl
    | cons c rest ihRest =>
      rw [List.foldl_cons, List.foldl_cons, ih c (List.mem_cons_self ..)]
      exact ihRest _ fun d hd => ih d (List.mem_cons_of_mem _ hd)

end SolidityLint.Ast.Node
