import Mathlib.Data.List.Flatten
import Mathlib.Data.List.Perm.Basic
import SolidityLint.Ast.Lower
import SolidityLint.Proofs.ParseTreeWalk
import SolidityLint.Proofs.Walk

set_option autoImplicit false

/-! # What is visited of an expression

Lowering keeps the operands of every expression but three: a sign loses its operand, a slice its
bounds, and a callee with a block the statements of the block. What is below a lost operand is lost
with it, whatever it is. `Expr.kept` are the expressions that are reached without going through a
lost operand, `Expr.hidden` those that are only reached through one; together they are the
expressions written (`Expr.written_perm`), and the kept ones keep their order
(`Expr.kept_sublist_written`).

The walk of the lowered expression meets exactly the kept expressions, without the parentheses
(`walk_lower`). So each question that a rule asks along the walk is answered as written exactly when
no hidden expression has a part in the answer. -/

namespace SolidityLint

namespace ParseTree.Expr

/-! ## Kept and hidden expressions -/

/-- The values directly in an expression that lowering keeps. -/
def keptParts : Expr → List Expr
  | .slice base _ _ _ => [base]
  | .callBlock callee _ _ => [callee]
  | .signed .. => []
  | e => e.parts.filterMap Fragment.expr?

/-- The parts directly in an expression that lowering drops. -/
def lostParts : Expr → List Fragment
  | .slice _ low high _ => (low.toList ++ high.toList).map .expr
  | .callBlock _ statements _ => statements.map .stmt
  | .signed _ operand _ => [.expr operand]
  | _ => []

theorem parts_eq (e : Expr) : e.parts = e.keptParts.map .expr ++ e.lostParts := by
  cases e <;>
    simp [parts, keptParts, lostParts, Fragment.expr?, List.filterMap_map, Function.comp_def]

theorem sizeOf_lt_of_mem_keptParts {e c : Expr} (h : c ∈ e.keptParts) : sizeOf c < sizeOf e := by
  have hmem : Fragment.expr c ∈ e.parts := by
    rw [parts_eq]
    exact List.mem_append_left _ (List.mem_map_of_mem h)
  simpa using sizeOf_lt_of_mem_parts hmem

/-- The expressions that are reached from `e` through kept operands, itself first. -/
def kept (e : Expr) : List Expr :=
  e :: e.keptParts.attach.flatMap fun ⟨c, _⟩ => c.kept
termination_by sizeOf e
decreasing_by exact sizeOf_lt_of_mem_keptParts (by assumption)

theorem kept_eq (e : Expr) : e.kept = e :: e.keptParts.flatMap kept := by
  rw [kept]
  simp

/-- What an expression inherits from its kept operands holds of every expression. -/
@[elab_as_elim]
theorem keptInduction {P : Expr → Prop} (step : ∀ e, (∀ c ∈ e.keptParts, P c) → P e) (e : Expr) :
    P e :=
  step e fun c _ => keptInduction step c
termination_by sizeOf e
decreasing_by exact sizeOf_lt_of_mem_keptParts (by assumption)

/-- The expressions in the parts of `e` that lowering drops. -/
def lost (e : Expr) : List Expr := e.lostParts.flatMap Fragment.exprs

/-- The expressions written in `e` that are only reached through a lost operand. -/
def hidden (e : Expr) : List Expr := e.kept.flatMap lost

theorem hidden_eq (e : Expr) : e.hidden = e.lost ++ e.keptParts.flatMap hidden := by
  unfold hidden
  rw [kept_eq, List.flatMap_cons, List.flatMap_assoc]

theorem written_eq_kept_lost (e : Expr) :
    e.written = e :: (e.keptParts.flatMap written ++ e.lost) := by
  rw [written_eq, parts_eq, List.flatMap_append, List.flatMap_map]
  rfl

open scoped List in
/-- **What is written is kept or hidden**, each occurrence once. -/
theorem written_perm (e : Expr) : e.written ~ e.kept ++ e.hidden := by
  induction e using keptInduction with
  | step e ih =>
    rw [written_eq_kept_lost, kept_eq, hidden_eq, List.cons_append]
    refine List.Perm.cons e ?_
    calc e.keptParts.flatMap written ++ e.lost
      _ ~ e.keptParts.flatMap (fun c => c.kept ++ c.hidden) ++ e.lost :=
        (List.Perm.flatMap_left _ ih).append_right _
      _ ~ (e.keptParts.flatMap kept ++ e.keptParts.flatMap hidden) ++ e.lost :=
        (List.flatMap_append_perm _ kept hidden).symm.append_right _
      _ ~ e.keptParts.flatMap kept ++ (e.lost ++ e.keptParts.flatMap hidden) := by
        rw [List.append_assoc]
        exact List.perm_append_comm.append_left _

/-- What is kept stays in order. -/
theorem kept_sublist_written (e : Expr) : e.kept.Sublist e.written := by
  induction e using keptInduction with
  | step e ih =>
    rw [written_eq_kept_lost, kept_eq]
    refine List.Sublist.cons_cons e ?_
    exact (List.Sublist.flatMap_right _ ih).trans (List.sublist_append_left _ _)

section Answers

variable {β : Type} (f : Expr → Option β) (e : Expr)

theorem filterMap_written_perm :
    (e.written.filterMap f).Perm (e.kept.filterMap f ++ e.hidden.filterMap f) := by
  rw [← List.filterMap_append]
  exact e.written_perm.filterMap f

/-- An answer gathered from the kept expressions is the one for all that is written exactly when no
    hidden expression adds to it. -/
theorem filterMap_kept_eq_written_iff :
    e.kept.filterMap f = e.written.filterMap f ↔ e.hidden.filterMap f = [] := by
  -- What is kept is a sublist of what is written, so equal lengths are enough.
  have hlength := (e.filterMap_written_perm f).length_eq
  rw [List.length_append] at hlength
  constructor
  · intro h
    rw [h] at hlength
    exact List.eq_nil_of_length_eq_zero (by omega)
  · intro h
    rw [h, List.length_nil] at hlength
    exact (e.kept_sublist_written.filterMap f).eq_of_length (by omega)

end Answers

/-- Is `e` an expression in parentheses? -/
def isParenthesis : Expr → Bool
  | .parenthesis .. => true
  | _ => false

/-- An expression without the parentheses around it. -/
def bare : Expr → Expr
  | .parenthesis inner _ => inner.bare
  | e => e

end ParseTree.Expr

namespace Ast

open ParseTree (Expr Fragment Parameter NamedArgument)

/-! ## The walk of a lowered expression -/

namespace Expression

theorem lowerList_eq_map (s : Source) (es : List Expr) : lowerList s es = es.map (lower s) := by
  induction es with
  | nil => rfl
  | cons e rest ih => rw [lowerList, ih, List.map_cons]

theorem lowerItems_eq_map (s : Source) (es : List Expr) :
    lowerItems s es = es.map fun e => some (lower s e) := by
  induction es with
  | nil => rfl
  | cons e rest ih => rw [lowerItems, ih, List.map_cons]

theorem lowerNamed_eq_map (s : Source) (given : List (NamedArgument Expr)) :
    lowerNamed s given = given.map fun a => lower s a.value := by
  induction given with
  | nil => rfl
  | cons a rest ih => rw [lowerNamed, ih, List.map_cons]

theorem filterMap_lowerSlots (s : Source) (slots : List (Option (Parameter Expr))) :
    (lowerSlots s slots).filterMap id = (slots.filterMap id).map fun p => lower s p.type := by
  induction slots with
  | nil => rfl
  | cons slot rest ih =>
    cases slot with
    | none => exact ih
    | some p => exact congrArg (lower s p.type :: ·) ih

/-- A lowered expression is an identifier if the bare one is. -/
theorem identifierName_lower (s : Source) (e : Expr) :
    (lower s e).identifierName = e.bare.variableName := by
  fun_induction Expr.bare e with
  | case1 inner span ih => exact ih
  | case2 e hbare =>
    cases e with
    | parenthesis inner span => exact absurd rfl (hbare inner span)
    | _ => rfl

/-- One step of the walk: below a lowered expression is what lowering keeps of it. -/
theorem children_lower (s : Source) {e : Expr} (h : e.isParenthesis = false) :
    (lower s e).children = e.keptParts.map (lower s) := by
  cases e with
  | parenthesis inner span => exact absurd h (by simp [Expr.isParenthesis])
  | index base i span => cases i <;> rfl
  | list slots span =>
    simpa [lower, children, Expr.keptParts, Expr.parts, Fragment.expr?, List.filterMap_map,
      Function.comp_def] using filterMap_lowerSlots s slots
  | _ =>
    simp [lower, children, Expr.keptParts, Expr.parts, Fragment.expr?, lowerList_eq_map,
      lowerItems_eq_map, lowerNamed_eq_map, List.filterMap_map, Function.comp_def]

end Expression

/-- **The walk of a lowered expression** meets what lowering keeps, without the parentheses, in the
    order in which it is written. -/
theorem Node.walk_lower (s : Source) (e : Expr) :
    (Node.expression (.lower s e)).walk
      = (e.kept.filter fun c => !c.isParenthesis).map fun c => .expression (.lower s c) := by
  induction e using Expr.keptInduction with
  | step e ih =>
    rw [Expr.kept_eq, List.filter_cons]
    by_cases h : e.isParenthesis = true
    · -- Parentheses lower to their inside.
      cases e with
      | parenthesis inner span =>
        have hparts : (Expr.parenthesis inner span).keptParts = [inner] := rfl
        rw [hparts, List.flatMap_singleton, if_neg (by simp [h]), Expression.lower]
        exact ih inner (by simp [hparts])
      | _ => exact absurd h (by simp [Expr.isParenthesis])
    · have hchildren := Expression.children_lower s (Bool.eq_false_iff.2 h)
      rw [walk_eq, if_pos (by simp [h]), List.map_cons, children, hchildren, List.map_map,
        List.flatMap_map, List.filter_flatMap, List.map_flatMap]
      congr 1
      exact List.flatMap_congr ih

end Ast

end SolidityLint
