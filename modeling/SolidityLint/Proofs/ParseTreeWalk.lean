import SolidityLint.ParseTree

set_option autoImplicit false

/-! # Walking a parse tree

What is written in a parse tree, before any of it is dropped. Expressions and statements hold each
other, so the walk goes over `Fragment`s of either kind: each one before its parts, and the parts in
the order of the source.

Only what is written as a value counts as a part. What stands as a type (the operand of `new`, a
type expression, the types of declarations and parameters) has no parts below it; a slot of a
parenthesised list does, because the list may be a tuple of values. -/

namespace SolidityLint.ParseTree

/-- An expression or a statement of a parse tree. -/
inductive Fragment where
  | expr (e : Expr)
  | stmt (s : Stmt)

/-- The expression that a fragment is, if it is one. -/
def Fragment.expr? : Fragment → Option Expr
  | expr e => some e
  | stmt _ => none

/-- The values directly in an expression, and the statements of the block it carries. -/
def Expr.parts : Expr → List Fragment
  | .identifier _ | .newOf .. | .elementaryType _ | .mappingType .. | .functionType ..
  | .boolLiteral .. | .numberLiteral .. | .rationalLiteral .. | .hexNumberLiteral ..
  | .stringLiteral .. | .hexLiteral .. | .addressLiteral .. => []
  | .member base _ _ => [.expr base]
  | .index base i _ => .expr base :: i.toList.map .expr
  | .slice base low high _ => .expr base :: (low.toList ++ high.toList).map .expr
  | .parenthesis inner _ => [.expr inner]
  | .call callee given _ => .expr callee :: given.map .expr
  | .namedCall callee given _ => .expr callee :: given.map fun a => .expr a.value
  | .callOptions callee options _ => .expr callee :: options.map fun a => .expr a.value
  | .callBlock callee statements _ => .expr callee :: statements.map .stmt
  | .conditional condition ifTrue ifFalse _ => [.expr condition, .expr ifTrue, .expr ifFalse]
  | .list slots _ => (slots.filterMap id).map fun p => .expr p.type
  | .arrayLiteral items _ => items.map .expr
  | .leading _ operand _ => [.expr operand]
  | .signed _ operand _ => [.expr operand]
  | .trailing _ operand _ => [.expr operand]
  | .binary _ left right _ => [.expr left, .expr right]
  | .assignment _ left right _ => [.expr left, .expr right]

/-- The values and statements directly in a statement. -/
def Stmt.parts : Stmt → List Fragment
  | .block statements _ _ => statements.map .stmt
  | .arguments given _ => given.map fun a => .expr a.value
  | .expression e _ => [.expr e]
  | .declaration _ initialValue _ => initialValue.toList.map .expr
  | .ifElse condition ifTrue ifFalse _ =>
      .expr condition :: .stmt ifTrue :: ifFalse.toList.map .stmt
  | .forLoop init condition update body _ =>
      init.toList.map .stmt ++ (condition.toList ++ update.toList).map .expr
        ++ body.toList.map .stmt
  | .whileLoop condition body _ => [.expr condition, .stmt body]
  | .doWhile body condition _ => [.stmt body, .expr condition]
  | .returnValue value _ => value.toList.map .expr
  | .emitEvent call _ => [.expr call]
  | .revertWith _ given _ => given.map .expr
  | .revertNamed _ given _ => given.map fun a => .expr a.value
  | .tryCatch e returns clauses _ =>
      .expr e :: (returns.toList.map (fun r => .stmt r.2) ++ clauses.map fun c => .stmt c.body)
  | .continueLoop _ | .breakLoop _ | .assembly _ => []

/-- The parts that a fragment directly has. -/
def Fragment.parts : Fragment → List Fragment
  | expr e => e.parts
  | stmt s => s.parts

/-! ## Parts are smaller than what they are in -/

theorem NamedArgument.sizeOf_value_lt (a : NamedArgument Expr) : sizeOf a.value < sizeOf a := by
  cases a
  simp only [NamedArgument.mk.sizeOf_spec]
  omega

theorem Parameter.sizeOf_type_lt (p : Parameter Expr) : sizeOf p.type < sizeOf p := by
  cases p
  simp only [Parameter.mk.sizeOf_spec]
  omega

theorem CatchClause.sizeOf_body_lt (c : CatchClause Expr Stmt) : sizeOf c.body < sizeOf c := by
  cases c
  simp only [CatchClause.mk.sizeOf_spec]
  omega

namespace Fragment

variable {α : Type} [SizeOf α] {f : α → Fragment} {p : Fragment}

theorem sizeOf_le_of_mem_map {xs : List α} (hf : ∀ x, sizeOf (f x) ≤ 1 + sizeOf x)
    (h : p ∈ xs.map f) : sizeOf p ≤ sizeOf xs := by
  obtain ⟨x, hx, rfl⟩ := List.mem_map.1 h
  have := List.sizeOf_lt_of_mem hx
  have := hf x
  omega

theorem sizeOf_le_of_mem_toList_map {o : Option α} (hf : ∀ x, sizeOf (f x) ≤ 1 + sizeOf x)
    (h : p ∈ o.toList.map f) : sizeOf p ≤ sizeOf o := by
  cases o with
  | none => exact absurd h (by simp)
  | some x =>
    obtain rfl : p = f x := by simpa using h
    simpa using hf x

theorem sizeOf_expr (e : Expr) : sizeOf (expr e) ≤ 1 + sizeOf e := by simp

theorem sizeOf_stmt (s : Stmt) : sizeOf (stmt s) ≤ 1 + sizeOf s := by simp

theorem sizeOf_value (a : NamedArgument Expr) : sizeOf (expr a.value) ≤ 1 + sizeOf a := by
  have := a.sizeOf_value_lt
  simp
  omega

end Fragment

open Fragment in
theorem Expr.sizeOf_lt_of_mem_parts {e : Expr} {p : Fragment} (h : p ∈ e.parts) :
    sizeOf p < 1 + sizeOf e := by
  cases e <;> simp only [Expr.parts, List.mem_cons, List.not_mem_nil, or_false] at h
  case member => subst h; simp; omega
  case index =>
    rcases h with rfl | h
    · simp; omega
    · have := sizeOf_le_of_mem_toList_map sizeOf_expr h
      simp; omega
  case slice =>
    rcases h with rfl | h
    · simp; omega
    · rw [List.map_append, List.mem_append] at h
      rcases h with h | h
      · have := sizeOf_le_of_mem_toList_map sizeOf_expr h
        simp; omega
      · have := sizeOf_le_of_mem_toList_map sizeOf_expr h
        simp; omega
  case parenthesis => subst h; simp; omega
  case call =>
    rcases h with rfl | h
    · simp; omega
    · have := sizeOf_le_of_mem_map sizeOf_expr h
      simp; omega
  case namedCall =>
    rcases h with rfl | h
    · simp; omega
    · have := sizeOf_le_of_mem_map sizeOf_value h
      simp; omega
  case callOptions =>
    rcases h with rfl | h
    · simp; omega
    · have := sizeOf_le_of_mem_map sizeOf_value h
      simp; omega
  case callBlock =>
    rcases h with rfl | h
    · simp; omega
    · have := sizeOf_le_of_mem_map sizeOf_stmt h
      simp; omega
  case conditional => rcases h with rfl | rfl | rfl <;> simp <;> omega
  case list =>
    simp only [List.mem_map, List.mem_filterMap, id] at h
    obtain ⟨q, ⟨o, ho, rfl⟩, rfl⟩ := h
    have := List.sizeOf_lt_of_mem ho
    have := q.sizeOf_type_lt
    simp at *; omega
  case arrayLiteral =>
    have := sizeOf_le_of_mem_map sizeOf_expr h
    simp; omega
  case leading => subst h; simp; omega
  case signed => subst h; simp; omega
  case trailing => subst h; simp; omega
  case binary => rcases h with rfl | rfl <;> simp <;> omega
  case assignment => rcases h with rfl | rfl <;> simp <;> omega

open Fragment in
theorem Stmt.sizeOf_lt_of_mem_parts {s : Stmt} {p : Fragment} (h : p ∈ s.parts) :
    sizeOf p < 1 + sizeOf s := by
  cases s <;> simp only [Stmt.parts, List.mem_cons, List.not_mem_nil, or_false] at h
  case block =>
    have := sizeOf_le_of_mem_map sizeOf_stmt h
    simp; omega
  case arguments =>
    have := sizeOf_le_of_mem_map sizeOf_value h
    simp; omega
  case expression => subst h; simp; omega
  case declaration =>
    have := sizeOf_le_of_mem_toList_map sizeOf_expr h
    simp; omega
  case ifElse =>
    rcases h with rfl | rfl | h
    · simp; omega
    · simp; omega
    · have := sizeOf_le_of_mem_toList_map sizeOf_stmt h
      simp; omega
  case forLoop =>
    simp only [List.map_append, List.mem_append] at h
    rcases h with (h | h | h) | h
    · have := sizeOf_le_of_mem_toList_map sizeOf_stmt h
      simp; omega
    · have := sizeOf_le_of_mem_toList_map sizeOf_expr h
      simp; omega
    · have := sizeOf_le_of_mem_toList_map sizeOf_expr h
      simp; omega
    · have := sizeOf_le_of_mem_toList_map sizeOf_stmt h
      simp; omega
  case whileLoop => rcases h with rfl | rfl <;> simp <;> omega
  case doWhile => rcases h with rfl | rfl <;> simp <;> omega
  case returnValue =>
    have := sizeOf_le_of_mem_toList_map sizeOf_expr h
    simp; omega
  case emitEvent => subst h; simp; omega
  case revertWith =>
    have := sizeOf_le_of_mem_map sizeOf_expr h
    simp; omega
  case revertNamed =>
    have := sizeOf_le_of_mem_map sizeOf_value h
    simp; omega
  case tryCatch =>
    rw [List.mem_append] at h
    rcases h with rfl | h | h
    · simp; omega
    · have hreturns : ∀ r : List (Option (Parameter Expr)) × Stmt,
          sizeOf (stmt r.2) ≤ 1 + sizeOf r := by
        rintro ⟨_, body⟩
        simp
      have := sizeOf_le_of_mem_toList_map hreturns h
      simp; omega
    · have hclause : ∀ c : CatchClause Expr Stmt, sizeOf (stmt c.body) ≤ 1 + sizeOf c := by
        intro c
        have := c.sizeOf_body_lt
        simp; omega
      have := sizeOf_le_of_mem_map hclause h
      simp; omega

namespace Fragment

theorem sizeOf_lt_of_mem_parts {p q : Fragment} (h : q ∈ p.parts) : sizeOf q < sizeOf p := by
  cases p with
  | expr e => simpa using Expr.sizeOf_lt_of_mem_parts h
  | stmt s => simpa using Stmt.sizeOf_lt_of_mem_parts h

/-! ## The walk -/

/-- The fragments at and below `p`: each before its parts, the parts from left to right. -/
def walk (p : Fragment) : List Fragment :=
  p :: p.parts.attach.flatMap fun ⟨q, _⟩ => q.walk
termination_by sizeOf p
decreasing_by exact sizeOf_lt_of_mem_parts (by assumption)

theorem walk_eq (p : Fragment) : p.walk = p :: p.parts.flatMap walk := by
  rw [walk]
  simp

/-- The expressions among the fragments at and below `p`. -/
def exprs (p : Fragment) : List Expr := p.walk.filterMap expr?

end Fragment

namespace Expr

/-- The expressions written in `e`, itself first. -/
def written (e : Expr) : List Expr := (Fragment.expr e).exprs

theorem written_eq (e : Expr) : e.written = e :: e.parts.flatMap Fragment.exprs := by
  unfold written Fragment.exprs
  have hself : (Fragment.expr e).expr? = some e := rfl
  rw [Fragment.walk_eq, List.filterMap_cons_some hself, List.filterMap_flatMap]
  rfl

/-- The name of an expression that is an identifier. -/
def variableName : Expr → Option String
  | .identifier name => some name.text
  | _ => none

/-- The names of the identifiers written in `e`, from left to right. -/
def variableNames (e : Expr) : List String := e.written.filterMap variableName

end Expr

end SolidityLint.ParseTree
