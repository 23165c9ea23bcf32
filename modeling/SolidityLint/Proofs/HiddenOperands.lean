import SolidityLint.Proofs.LoweredExpression
import SolidityLint.Proofs.Provenance

set_option autoImplicit false

/-! # Uses that no rule sees

The rules see an expression through its walk. This file says how much of what is written they see:
the names of the identifiers, the count of a name, and the findings against `tx.origin` and
`block.timestamp`. Each is what the kept expressions give, so each is what the source says exactly
when no hidden expression has a part in it.

Hidden expressions exist: a use of `tx.origin` below a sign, or in the bound of a slice, is not
seen. -/

namespace SolidityLint

open Ast Engine
open ParseTree (Expr)

/-! ## Names along the walk -/

/-- The names that the walk of a lowered expression meets are those that lowering keeps. -/
theorem Ast.Node.identifiers_lower (s : Source) (e : Expr) :
    (Node.expression (.lower s e)).identifiers = e.kept.filterMap Expr.variableName := by
  rw [identifiers, walk_lower, List.filterMap_map, List.filterMap_filter]
  refine List.filterMap_congr fun c _ => ?_
  cases c <;> rfl

/-! ## Globals that others control -/

/-- The globals that are no safe grounds for a decision. -/
inductive UnsafeGlobal where
  | txOrigin
  | blockTimestamp

namespace UnsafeGlobal

/-- The global object that has the member. -/
def object : UnsafeGlobal → String
  | txOrigin => "tx"
  | blockTimestamp => "block"

/-- The member that is not to be used. -/
def member : UnsafeGlobal → String
  | txOrigin => "origin"
  | blockTimestamp => "timestamp"

/-- The rule against its use. -/
def rule : UnsafeGlobal → Rule
  | txOrigin => Rule.txOrigin
  | blockTimestamp => Rule.blockTimestamp

/-- The finding against a use at `loc`. -/
def finding (g : UnsafeGlobal) (loc : Location) : Diagnostic :=
  g.rule.diagnostic ("avoid using " ++ g.object ++ "." ++ g.member) loc

/-- The finding that an expression asks for if it is a use of the global, whether or not the object
    is in parentheses. -/
def use? (g : UnsafeGlobal) (s : Source) : Expr → Option Diagnostic
  | .member base name span =>
      if base.bare.variableName = some g.object ∧ name.text = g.member then
        some (g.finding (s.loc span))
      else none
  | _ => none

/-- The findings that the uses written in an expression ask for, in order. -/
def uses (g : UnsafeGlobal) (s : Source) (e : Expr) : List Diagnostic :=
  e.written.filterMap (g.use? s)

/-- The findings of the global's rule. -/
def among (g : UnsafeGlobal) (found : List Diagnostic) : List Diagnostic :=
  found.filter fun d => d.ruleId == g.rule.id

theorem among_unsafeGlobal (g : UnsafeGlobal) (base : Expression) (name : String)
    (loc : Location) :
    g.among (Check.unsafeGlobal base name loc)
      = if base.identifierName = some g.object ∧ name = g.member then [g.finding loc] else [] := by
  rw [Check.unsafeGlobal_eq]
  split
  case h_1 htx =>
    cases g with
    | txOrigin => rw [if_pos ⟨htx, rfl⟩]; rfl
    | blockTimestamp => rw [if_neg (by simp [htx, object])]; rfl
  case h_2 hblock =>
    cases g with
    | txOrigin => rw [if_neg (by simp [hblock, object])]; rfl
    | blockTimestamp => rw [if_pos ⟨hblock, rfl⟩]; rfl
  case h_3 hother hother' =>
    rw [if_neg]
    · rfl
    · rintro ⟨hobject, rfl⟩
      cases g with
      | txOrigin => exact hother hobject rfl
      | blockTimestamp => exact hother' hobject rfl

/-- Among expressions only a member access calls for the rule. -/
theorem among_findings (g : UnsafeGlobal) (options : Options) (registry : Registry)
    (e : Expression) :
    g.among (findings options registry (.expression e))
      = match e with
        | .memberAccess base name loc => g.among (Check.unsafeGlobal base name loc)
        | _ => [] := by
  unfold among
  rw [filter_findings]
  cases e with
  | memberAccess base name loc => cases g <;> exact List.append_nil _
  | binaryOperation operator left right loc => cases g <;> rfl
  | _ => rfl

theorem among_findings_lower (g : UnsafeGlobal) (options : Options) (registry : Registry)
    (s : Source) {e : Expr} (h : e.isParenthesis = false) :
    g.among (findings options registry (.expression (.lower s e))) = (g.use? s e).toList := by
  rw [among_findings]
  cases e with
  | member base name span =>
    show g.among (Check.unsafeGlobal (.lower s base) name.text (s.loc span)) = _
    rw [among_unsafeGlobal, Expression.identifierName_lower, use?]
    split <;> rfl
  | parenthesis inner span => exact absurd h (by simp [Expr.isParenthesis])
  | _ => rfl

end UnsafeGlobal

/-! ## A pass over an expression -/

namespace Engine

/-- What a pass adds when it meets the nodes of a lowered expression, in any context. -/
theorem among_foldl_visit_lower (g : UnsafeGlobal) (options : Options) (c : Context) (s : Source)
    (e : Expr) :
    g.among ((Node.expression (.lower s e)).walk.foldl (visit options) c).diagnostics
      = g.among c.diagnostics ++ e.kept.filterMap (g.use? s) := by
  have hdeclares : ∀ n ∈ (Node.expression (.lower s e)).walk, declaredNames n = [] := by
    rw [Node.walk_lower]
    intro n hn
    obtain ⟨d, -, rfl⟩ := List.mem_map.1 hn
    rfl
  -- Parentheses are no use of a global.
  have hkept : e.kept.filterMap (g.use? s)
      = (e.kept.filter fun d => !d.isParenthesis).filterMap (g.use? s) := by
    rw [List.filterMap_filter]
    refine List.filterMap_congr fun d _ => ?_
    cases d <;> rfl
  rw [foldl_visit_of_declaredNames_eq_nil options hdeclares, Node.walk_lower, hkept,
    List.filterMap_eq_flatMap_toList, List.flatMap_map, UnsafeGlobal.among, List.filter_append,
    List.filter_flatMap]
  refine congrArg (_ ++ ·) (List.flatMap_congr fun d hd => ?_)
  have hd : d.isParenthesis = false := by simpa using (List.mem_filter.1 hd).2
  exact g.among_findings_lower options c.registry s hd

end Engine

/-! ## What is written and what is seen -/

namespace ParseTree.Expr

/-- **An expression is seen as it is written exactly when nothing that matters is hidden.** The walk
    of a lowered expression meets the names of the kept identifiers in order. They are the names
    that are written exactly when no hidden expression is an identifier; a name is counted as often
    as it is written exactly when it is not a hidden one; and in any context a pass reports every
    use of `tx.origin`, or of `block.timestamp`, exactly when no hidden expression is such a use. -/
theorem seen_as_written_iff (s : Source) (e : Expr) :
    (Node.expression (.lower s e)).identifiers = e.kept.filterMap variableName
    ∧ ((Node.expression (.lower s e)).identifiers = e.variableNames
        ↔ e.hidden.filterMap variableName = [])
    ∧ (∀ name, (Node.expression (.lower s e)).countIdentifier name = e.variableNames.count name
        ↔ name ∉ e.hidden.filterMap variableName)
    ∧ ∀ (g : UnsafeGlobal) (options : Options) (c : Context),
        g.among ((Node.expression (.lower s e)).walk.foldl (visit options) c).diagnostics
            = g.among c.diagnostics ++ g.uses s e
          ↔ e.hidden.filterMap (g.use? s) = [] := by
  refine ⟨Node.identifiers_lower s e, ?_, ?_, ?_⟩
  · rw [Node.identifiers_lower]
    exact e.filterMap_kept_eq_written_iff variableName
  · intro name
    have hcount := (e.filterMap_written_perm variableName).count_eq name
    rw [List.count_append] at hcount
    rw [Node.countIdentifier_eq_count, Node.identifiers_lower, ← List.count_eq_zero, variableNames]
    omega
  · intro g options c
    rw [among_foldl_visit_lower, List.append_cancel_left_eq]
    exact e.filterMap_kept_eq_written_iff (g.use? s)

/-- Two uses of `tx.origin`, one below a sign and one in the bound of a slice. -/
def hiddenOrigins : Expr :=
  .binary .add
    (.signed .minus (.member (.identifier ⟨"tx", ⟨1, 3⟩⟩) ⟨"origin", ⟨4, 10⟩⟩ ⟨1, 10⟩) ⟨0, 10⟩)
    (.slice (.identifier ⟨"list", ⟨13, 17⟩⟩)
      (some (.member (.identifier ⟨"tx", ⟨18, 20⟩⟩) ⟨"origin", ⟨21, 27⟩⟩ ⟨18, 27⟩)) none ⟨13, 29⟩)
    ⟨0, 29⟩

/-- The text of `hiddenOrigins`. -/
def hiddenOriginsSource : Source := .ofString "-tx.origin + list[tx.origin:]"

/-- Both uses are written, and a pass sees neither the names nor the uses. -/
theorem hiddenOrigins_not_seen :
    hiddenOrigins.variableNames = ["tx", "list", "tx"]
    ∧ (Node.expression (.lower hiddenOriginsSource hiddenOrigins)).identifiers = ["list"]
    ∧ (Node.expression (.lower hiddenOriginsSource hiddenOrigins)).countIdentifier "tx" = 0
    ∧ UnsafeGlobal.txOrigin.uses hiddenOriginsSource hiddenOrigins
      = [UnsafeGlobal.txOrigin.finding ⟨⟨1, 1⟩, ⟨1, 10⟩⟩,
          UnsafeGlobal.txOrigin.finding ⟨⟨1, 18⟩, ⟨1, 27⟩⟩]
    ∧ UnsafeGlobal.txOrigin.among ((Node.expression (.lower hiddenOriginsSource
        hiddenOrigins)).walk.foldl (visit ⟨false⟩) .empty).diagnostics = [] := by
  have hsign : hiddenOriginsSource.loc ⟨1, 10⟩ = ⟨⟨1, 1⟩, ⟨1, 10⟩⟩ := by decide
  have hbound : hiddenOriginsSource.loc ⟨18, 27⟩ = ⟨⟨1, 18⟩, ⟨1, 27⟩⟩ := by decide
  refine ⟨?_, ?_, ?_, ?_, ?_⟩
  · cbv
  · rw [Node.identifiers_lower]
    cbv
  · rw [Node.countIdentifier_eq_count, Node.identifiers_lower]
    cbv
  · rw [← hsign, ← hbound]
    simp [UnsafeGlobal.uses, hiddenOrigins, written, Fragment.exprs, Fragment.walk_eq,
      Fragment.parts, parts, Fragment.expr?]
    rfl
  · -- What is kept has no use in it, whatever the text.
    rw [among_foldl_visit_lower]
    generalize hiddenOriginsSource = s
    cbv

end ParseTree.Expr

end SolidityLint
