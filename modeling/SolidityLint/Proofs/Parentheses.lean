import SolidityLint.Proofs.LoweredStatement
import SolidityLint.Proofs.Pass

set_option autoImplicit false

/-! # Parentheses

A parse tree tells an expression in parentheses from a bare one, the syntax tree does not.
`Expr.withoutParentheses` removes the parentheses around every value at every depth, those in the
block of a callee included, and leaves types as they are written; no value of what it gives is in
parentheses (`Expr.isParenthesis_of_mem_written`). Two expressions that are equal without their
parentheses are ways of parenthesising one expression, and lower to one tree.

For statements there is one thing to keep apart. An assignment to a list that declares names is a
declaration only as it stands: in parentheses, the whole or the list would be a value, and what
stands in the list is types (`Expr.DeclaresOpenly`). -/

namespace SolidityLint

open ParseTree (Span Expr Stmt Fragment Parameter NamedArgument CatchClause)

namespace ParseTree

/-! ## Without parentheses -/

mutual

/-- An expression without the parentheses around the values in it. Types keep theirs. -/
def Expr.withoutParentheses : Expr → Expr
  | .parenthesis inner _ => inner.withoutParentheses
  | .member base member span => .member base.withoutParentheses member span
  | .index base i span => .index base.withoutParentheses (Expr.withoutParenthesesOption i) span
  | .slice base low high span =>
      .slice base.withoutParentheses (Expr.withoutParenthesesOption low)
        (Expr.withoutParenthesesOption high) span
  | .call callee given span =>
      .call callee.withoutParentheses (Expr.withoutParenthesesList given) span
  | .namedCall callee given span =>
      .namedCall callee.withoutParentheses (Expr.withoutParenthesesNamed given) span
  | .callOptions callee options span =>
      .callOptions callee.withoutParentheses (Expr.withoutParenthesesNamed options) span
  | .callBlock callee statements span =>
      .callBlock callee.withoutParentheses (Stmt.withoutParenthesesList statements) span
  | .conditional condition ifTrue ifFalse span =>
      .conditional condition.withoutParentheses ifTrue.withoutParentheses
        ifFalse.withoutParentheses span
  | .list slots span => .list (Expr.withoutParenthesesSlots slots) span
  | .arrayLiteral items span => .arrayLiteral (Expr.withoutParenthesesList items) span
  | .leading operator operand span => .leading operator operand.withoutParentheses span
  | .signed sign operand span => .signed sign operand.withoutParentheses span
  | .trailing operator operand span => .trailing operator operand.withoutParentheses span
  | .binary operator left right span =>
      .binary operator left.withoutParentheses right.withoutParentheses span
  | .assignment operator left right span =>
      .assignment operator left.withoutParentheses right.withoutParentheses span
  | e => e

/-- An operand that may be missing, without its parentheses. -/
def Expr.withoutParenthesesOption : Option Expr → Option Expr
  | some e => some e.withoutParentheses
  | none => none

/-- Some expressions without their parentheses. -/
def Expr.withoutParenthesesList : List Expr → List Expr
  | [] => []
  | e :: rest => e.withoutParentheses :: Expr.withoutParenthesesList rest

/-- Named arguments whose values have no parentheses. -/
def Expr.withoutParenthesesNamed : List (NamedArgument Expr) → List (NamedArgument Expr)
  | [] => []
  | ⟨name, e⟩ :: rest => ⟨name, e.withoutParentheses⟩ :: Expr.withoutParenthesesNamed rest

/-- The slots of a list without their parentheses. -/
def Expr.withoutParenthesesSlots :
    List (Option (Parameter Expr)) → List (Option (Parameter Expr))
  | [] => []
  | none :: rest => none :: Expr.withoutParenthesesSlots rest
  | some ⟨e, dataLocation, name, span⟩ :: rest =>
      some ⟨e.withoutParentheses, dataLocation, name, span⟩ :: Expr.withoutParenthesesSlots rest

/-- A statement without the parentheses around the values in it. -/
def Stmt.withoutParentheses : Stmt → Stmt
  | .block statements isUnchecked span =>
      .block (Stmt.withoutParenthesesList statements) isUnchecked span
  | .arguments given span => .arguments (Expr.withoutParenthesesNamed given) span
  | .expression e span => .expression e.withoutParentheses span
  | .declaration d initialValue span =>
      .declaration d (Expr.withoutParenthesesOption initialValue) span
  | .ifElse condition ifTrue ifFalse span =>
      .ifElse condition.withoutParentheses ifTrue.withoutParentheses
        (Stmt.withoutParenthesesOption ifFalse) span
  | .forLoop init condition update body span =>
      .forLoop (Stmt.withoutParenthesesOption init) (Expr.withoutParenthesesOption condition)
        (Expr.withoutParenthesesOption update) (Stmt.withoutParenthesesOption body) span
  | .whileLoop condition body span =>
      .whileLoop condition.withoutParentheses body.withoutParentheses span
  | .doWhile body condition span =>
      .doWhile body.withoutParentheses condition.withoutParentheses span
  | .returnValue value span => .returnValue (Expr.withoutParenthesesOption value) span
  | .emitEvent call span => .emitEvent call.withoutParentheses span
  | .revertWith error given span => .revertWith error (Expr.withoutParenthesesList given) span
  | .revertNamed error given span => .revertNamed error (Expr.withoutParenthesesNamed given) span
  | .tryCatch e none clauses span =>
      .tryCatch e.withoutParentheses none (Stmt.withoutParenthesesClauses clauses) span
  | .tryCatch e (some (parameters, body)) clauses span =>
      .tryCatch e.withoutParentheses (some (parameters, body.withoutParentheses))
        (Stmt.withoutParenthesesClauses clauses) span
  | s => s

/-- A statement that may be missing, without its parentheses. -/
def Stmt.withoutParenthesesOption : Option Stmt → Option Stmt
  | some s => some s.withoutParentheses
  | none => none

/-- Some statements without their parentheses. -/
def Stmt.withoutParenthesesList : List Stmt → List Stmt
  | [] => []
  | s :: rest => s.withoutParentheses :: Stmt.withoutParenthesesList rest

/-- Clauses of a `try` statement whose bodies have no parentheses. -/
def Stmt.withoutParenthesesClauses : List (CatchClause Expr Stmt) → List (CatchClause Expr Stmt)
  | [] => []
  | ⟨name, parameter, body⟩ :: rest =>
      ⟨name, parameter, body.withoutParentheses⟩ :: Stmt.withoutParenthesesClauses rest

end

namespace Expr

theorem withoutParenthesesOption_eq_map (o : Option Expr) :
    withoutParenthesesOption o = o.map withoutParentheses := by
  cases o <;> rfl

theorem withoutParenthesesList_eq_map (es : List Expr) :
    withoutParenthesesList es = es.map withoutParentheses := by
  induction es with
  | nil => rfl
  | cons e rest ih => rw [withoutParenthesesList, ih, List.map_cons]

theorem withoutParenthesesNamed_eq_map (given : List (NamedArgument Expr)) :
    withoutParenthesesNamed given
      = given.map fun a => { a with value := a.value.withoutParentheses } := by
  induction given with
  | nil => rfl
  | cons a rest ih => rw [withoutParenthesesNamed, ih, List.map_cons]

theorem withoutParenthesesSlots_eq_map (slots : List (Option (Parameter Expr))) :
    withoutParenthesesSlots slots
      = slots.map (Option.map fun p => { p with type := p.type.withoutParentheses }) := by
  induction slots with
  | nil => rfl
  | cons slot rest ih =>
    cases slot with
    | none => rw [withoutParenthesesSlots, ih, List.map_cons, Option.map_none]
    | some p => rw [withoutParenthesesSlots, ih, List.map_cons, Option.map_some]

end Expr

namespace Stmt

theorem withoutParenthesesOption_eq_map (o : Option Stmt) :
    withoutParenthesesOption o = o.map withoutParentheses := by
  cases o <;> rfl

theorem withoutParenthesesList_eq_map (ss : List Stmt) :
    withoutParenthesesList ss = ss.map withoutParentheses := by
  induction ss with
  | nil => rfl
  | cons s rest ih => rw [withoutParenthesesList, ih, List.map_cons]

theorem withoutParenthesesClauses_eq_map (clauses : List (CatchClause Expr Stmt)) :
    withoutParenthesesClauses clauses
      = clauses.map fun c => { c with body := c.body.withoutParentheses } := by
  induction clauses with
  | nil => rfl
  | cons c rest ih => rw [withoutParenthesesClauses, ih, List.map_cons]

end Stmt

/-! ## No value is left in parentheses -/

/-- A fragment without its parentheses. -/
def Fragment.withoutParentheses : Fragment → Fragment
  | expr e => expr e.withoutParentheses
  | stmt s => stmt s.withoutParentheses

section Parts

-- The list forms are maps, and a part of a part is one that is mapped.
attribute [local simp] Expr.withoutParentheses Stmt.withoutParentheses Expr.parts Stmt.parts
  Fragment.withoutParentheses Expr.withoutParenthesesOption_eq_map
  Expr.withoutParenthesesList_eq_map Expr.withoutParenthesesNamed_eq_map
  Expr.withoutParenthesesSlots_eq_map Stmt.withoutParenthesesOption_eq_map
  Stmt.withoutParenthesesList_eq_map Stmt.withoutParenthesesClauses_eq_map
  Option.toList_map List.filterMap_map Function.comp_def

theorem Expr.parts_withoutParentheses {e : Expr} (h : e.isParenthesis = false) :
    e.withoutParentheses.parts = e.parts.map Fragment.withoutParentheses := by
  cases e with
  | parenthesis inner span => exact absurd h (by simp [isParenthesis])
  | list slots span => simp [List.map_filterMap]
  | _ => simp

theorem Stmt.parts_withoutParentheses (s : Stmt) :
    s.withoutParentheses.parts = s.parts.map Fragment.withoutParentheses := by
  cases s with
  | tryCatch e returns clauses span => cases returns <;> simp
  | _ => simp

end Parts

namespace Fragment

/-- Is this an expression in parentheses? -/
def isParenthesis : Fragment → Bool
  | expr e => e.isParenthesis
  | stmt _ => false

/-- What a fragment inherits from its parts holds of every fragment. -/
@[elab_as_elim]
theorem partInduction {P : Fragment → Prop} (step : ∀ p, (∀ q ∈ p.parts, P q) → P p)
    (p : Fragment) : P p :=
  step p fun q _ => partInduction step q
termination_by sizeOf p
decreasing_by exact sizeOf_lt_of_mem_parts (by assumption)

theorem isParenthesis_of_mem_walk (p : Fragment) :
    ∀ q ∈ p.withoutParentheses.walk, q.isParenthesis = false := by
  induction p using partInduction with
  | step p ih =>
    intro q hq
    by_cases hp : p.isParenthesis = true
    · -- Parentheses give way to their inside.
      cases p with
      | expr e =>
        cases e with
        | parenthesis inner span => exact ih (.expr inner) (List.mem_singleton_self _) q hq
        | _ => exact absurd hp (by simp [isParenthesis, Expr.isParenthesis])
      | stmt s => exact absurd hp (by simp [isParenthesis])
    · have hparts : p.withoutParentheses.parts = p.parts.map withoutParentheses := by
        cases p with
        | expr e => exact Expr.parts_withoutParentheses (Bool.eq_false_iff.2 hp)
        | stmt s => exact Stmt.parts_withoutParentheses s
      rw [walk_eq, hparts, List.flatMap_map, List.mem_cons, List.mem_flatMap] at hq
      rcases hq with rfl | ⟨r, hr, hq⟩
      · cases p with
        | expr e => cases e <;> first | rfl | exact absurd rfl hp
        | stmt s => rfl
      · exact ih r hr q hq

end Fragment

theorem Expr.isParenthesis_of_mem_written {e c : Expr} (h : c ∈ e.withoutParentheses.written) :
    c.isParenthesis = false := by
  obtain ⟨q, hq, hc⟩ := List.mem_filterMap.1 h
  obtain rfl : q = .expr c := by
    cases q with
    | expr d => rw [Option.some.inj hc]
    | stmt s => exact absurd hc (by simp [Fragment.expr?])
  exact (Fragment.expr e).isParenthesis_of_mem_walk _ hq

end ParseTree

namespace Ast

/-! ## One tree for all ways to parenthesise an expression -/

namespace Expression

theorem lowerOption_eq_map (src : Source) (o : Option Expr) :
    lowerOption src o = o.map (lower src) := by
  cases o <;> rfl

theorem lowerSlots_eq_map (src : Source) (slots : List (Option (Parameter Expr))) :
    lowerSlots src slots = slots.map (Option.map fun p => lower src p.type) := by
  induction slots with
  | nil => rfl
  | cons slot rest ih =>
    cases slot with
    | none => rw [lowerSlots, ih, List.map_cons, Option.map_none]
    | some p => rw [lowerSlots, ih, List.map_cons, Option.map_some]

section Lowering

-- Both lowering and the removal of parentheses are maps on lists, so they compose.
attribute [local simp] lower Expr.withoutParentheses lowerOption_eq_map lowerList_eq_map
  lowerItems_eq_map lowerNamed_eq_map lowerSlots_eq_map Expr.withoutParenthesesOption_eq_map
  Expr.withoutParenthesesList_eq_map Expr.withoutParenthesesNamed_eq_map
  Expr.withoutParenthesesSlots_eq_map argumentNames Function.comp_def

theorem lower_withoutParentheses (src : Source) (e : Expr) :
    lower src e.withoutParentheses = lower src e := by
  induction e using Expr.keptInduction with
  | step e ih =>
    cases e with
    | index base i span => cases i <;> simp_all [Expr.keptParts, Expr.parts, Fragment.expr?]
    | list slots span =>
      have hslot : ∀ p, some p ∈ slots →
          lower src p.type.withoutParentheses = lower src p.type := by
        simpa [Expr.keptParts, Expr.parts, Fragment.expr?] using ih
      simp only [Expr.withoutParentheses, lower, lowerSlots_eq_map,
        Expr.withoutParenthesesSlots_eq_map, List.map_map]
      refine congrArg (tuple · false _) (List.map_congr_left fun slot hmem => ?_)
      cases slot with
      | none => rfl
      | some p => exact congrArg some (hslot p hmem)
    | _ => simp_all [Expr.keptParts, Expr.parts, Fragment.expr?]

end Lowering

theorem lowerOption_withoutParentheses (src : Source) (o : Option Expr) :
    lowerOption src (Expr.withoutParenthesesOption o) = lowerOption src o := by
  cases o with
  | none => rfl
  | some e => exact congrArg some (lower_withoutParentheses src e)

theorem lowerList_withoutParentheses (src : Source) (es : List Expr) :
    lowerList src (Expr.withoutParenthesesList es) = lowerList src es := by
  rw [Expr.withoutParenthesesList_eq_map, lowerList_eq_map, lowerList_eq_map, List.map_map]
  exact List.map_congr_left fun e _ => lower_withoutParentheses src e

theorem lowerNamed_withoutParentheses (src : Source) (given : List (NamedArgument Expr)) :
    lowerNamed src (Expr.withoutParenthesesNamed given) = lowerNamed src given := by
  rw [Expr.withoutParenthesesNamed_eq_map, lowerNamed_eq_map, lowerNamed_eq_map, List.map_map]
  exact List.map_congr_left fun a _ => lower_withoutParentheses src a.value

end Expression

end Ast

/-! ## Declarations of several names -/

namespace ParseTree

/-- Is this an assignment to a list that declares names? -/
def Expr.declares : Expr → Bool
  | .assignment .assign (.list slots _) _ _ => slots.any Ast.declaresName
  | _ => false

/-- If `e` declares names, then as it stands: neither the whole nor the list of names is in
    parentheses, and no type of a declared name has any. -/
def Expr.DeclaresOpenly (e : Expr) : Prop :=
  e.withoutParentheses.declares = true → ∃ slots listSpan right span,
    e = .assignment .assign (.list slots listSpan) right span
      ∧ ∀ p, some p ∈ slots → p.name.isSome = true → p.type.withoutParentheses = p.type

/-- Every expression that stands as a statement in `s`, at any depth, declares openly what it
    declares. -/
def Stmt.DeclaresOpenly (s : Stmt) : Prop :=
  ∀ e span, .expression e span ∈ s.reached → e.DeclaresOpenly

theorem Stmt.DeclaresOpenly.nested {s t : Stmt} (h : s.DeclaresOpenly) (ht : t ∈ s.nested) :
    t.DeclaresOpenly := by
  intro e span hmem
  refine h e span ?_
  rw [reached_eq]
  exact List.mem_cons_of_mem _ (List.mem_flatMap.2 ⟨t, ht, hmem⟩)

end ParseTree

namespace Ast

namespace Statement

theorem ofExpr_eq_expression (src : Source) {e : Expr} (span : Span) (h : e.declares = false) :
    ofExpr src e span = .expression (.lower src e) (src.loc span) := by
  unfold ofExpr
  split
  · rw [if_neg]
    simpa [Expr.declares] using h
  · rfl

theorem any_declaresName_withoutParentheses (slots : List (Option (Parameter Expr))) :
    (Expr.withoutParenthesesSlots slots).any declaresName = slots.any declaresName := by
  rw [Expr.withoutParenthesesSlots_eq_map, List.any_map]
  refine congrArg slots.any (funext fun slot => ?_)
  cases slot <;> rfl

theorem declares_withoutParentheses {e : Expr} (h : e.declares = true) :
    e.withoutParentheses.declares = true := by
  fun_cases Expr.declares e with
  | case1 slots listSpan right span => exact (any_declaresName_withoutParentheses slots).trans h
  | case2 e hother =>
    rw [Expr.declares] at h
    · exact absurd h (by simp)
    · exact hother

theorem declaredSlot_withoutParentheses (src : Source) {slots : List (Option (Parameter Expr))}
    (h : ∀ p, some p ∈ slots → p.name.isSome = true → p.type.withoutParentheses = p.type) :
    (Expr.withoutParenthesesSlots slots).map (declaredSlot src) = slots.map (declaredSlot src) := by
  rw [Expr.withoutParenthesesSlots_eq_map, List.map_map]
  refine List.map_congr_left fun slot hslot => ?_
  cases slot with
  | none => rfl
  | some p =>
    by_cases hname : p.name.isSome = true
    · have hp : { p with type := p.type.withoutParentheses } = p := by rw [h p hslot hname]
      show declaredSlot src (some { p with type := p.type.withoutParentheses }) = _
      rw [hp]
    · simp [declaredSlot, Option.filter, hname]

theorem ofExpr_withoutParentheses (src : Source) {e : Expr} (span : Span) (h : e.DeclaresOpenly) :
    ofExpr src e.withoutParentheses span = ofExpr src e span := by
  cases hdeclares : e.withoutParentheses.declares with
  | true =>
    obtain ⟨slots, listSpan, right, eSpan, rfl, htypes⟩ := h hdeclares
    have hbare : (Expr.withoutParenthesesSlots slots).any declaresName = true := hdeclares
    have hslots : slots.any declaresName = true := by
      rw [← any_declaresName_withoutParentheses, hbare]
    simp only [Expr.withoutParentheses, ofExpr, if_pos hslots, if_pos hbare,
      declaredSlot_withoutParentheses src htypes, Expression.lower_withoutParentheses]
  | false =>
    have hplain : e.declares = false := by
      rw [Bool.eq_false_iff]
      intro he
      rw [declares_withoutParentheses he] at hdeclares
      exact absurd hdeclares (by simp)
    rw [ofExpr_eq_expression src span hdeclares, ofExpr_eq_expression src span hplain,
      Expression.lower_withoutParentheses]

theorem lowerOption_eq_map (src : Source) (o : Option Stmt) :
    lowerOption src o = o.map (lower src) := by
  cases o <;> rfl

theorem lowerOption_withoutParentheses (src : Source) {o : Option Stmt}
    (h : ∀ t ∈ o, lower src t.withoutParentheses = lower src t) :
    lowerOption src (Stmt.withoutParenthesesOption o) = lowerOption src o := by
  rw [Stmt.withoutParenthesesOption_eq_map, lowerOption_eq_map, lowerOption_eq_map, Option.map_map]
  exact Option.map_congr h

theorem lowerList_withoutParentheses (src : Source) {ss : List Stmt}
    (h : ∀ t ∈ ss, lower src t.withoutParentheses = lower src t) :
    lowerList src (Stmt.withoutParenthesesList ss) = lowerList src ss := by
  rw [Stmt.withoutParenthesesList_eq_map, lowerList_eq_map, lowerList_eq_map, List.map_map]
  exact List.map_congr_left h

theorem lowerClauses_withoutParentheses (src : Source) {clauses : List (CatchClause Expr Stmt)}
    (h : ∀ c ∈ clauses, lower src c.body.withoutParentheses = lower src c.body) :
    lowerClauses src (Stmt.withoutParenthesesClauses clauses) = lowerClauses src clauses := by
  rw [Stmt.withoutParenthesesClauses_eq_map, lowerClauses_eq_map, lowerClauses_eq_map, List.map_map]
  exact List.map_congr_left h

theorem lower_withoutParentheses (src : Source) {s : Stmt} (h : s.DeclaresOpenly) :
    lower src s.withoutParentheses = lower src s := by
  induction s using Stmt.nestedInduction with
  | step s ih =>
    have hpart : ∀ t, .stmt t ∈ s.contents → lower src t.withoutParentheses = lower src t := by
      intro t ht
      exact ih t (Stmt.mem_nested_iff.2 ht) (h.nested (Stmt.mem_nested_iff.2 ht))
    cases s with
    | expression e span =>
      refine ofExpr_withoutParentheses src span (h e span ?_)
      rw [Stmt.reached_eq]
      exact List.mem_cons_self ..
    | block statements isUnchecked span =>
      rw [Stmt.withoutParentheses, lower, lower, lowerList_withoutParentheses src]
      intro t ht
      exact hpart t (by simpa [Stmt.contents, Stmt.parts] using ht)
    | ifElse condition ifTrue ifFalse span =>
      have hfalse : ∀ t ∈ ifFalse, lower src t.withoutParentheses = lower src t := by
        intro t ht
        exact hpart t (by simp_all [Stmt.contents, Stmt.parts])
      rw [Stmt.withoutParentheses, lower, lower, Expression.lower_withoutParentheses,
        hpart ifTrue (by simp [Stmt.contents, Stmt.parts]),
        lowerOption_withoutParentheses src hfalse]
    | forLoop init condition update body span =>
      have hinit : ∀ t ∈ init, lower src t.withoutParentheses = lower src t := by
        intro t ht
        exact hpart t (by simp_all [Stmt.contents, Stmt.parts])
      have hbody : ∀ t ∈ body, lower src t.withoutParentheses = lower src t := by
        intro t ht
        exact hpart t (by simp_all [Stmt.contents, Stmt.parts])
      rw [Stmt.withoutParentheses, lower, lower, lowerOption_withoutParentheses src hinit,
        lowerOption_withoutParentheses src hbody, Expression.lowerOption_withoutParentheses,
        Expression.lowerOption_withoutParentheses]
    | whileLoop condition body span =>
      rw [Stmt.withoutParentheses, lower, lower, Expression.lower_withoutParentheses,
        hpart body (by simp [Stmt.contents, Stmt.parts])]
    | doWhile body condition span =>
      rw [Stmt.withoutParentheses, lower, lower, Expression.lower_withoutParentheses,
        hpart body (by simp [Stmt.contents, Stmt.parts])]
    | tryCatch e returns clauses span =>
      have hclauses : ∀ c ∈ clauses, lower src c.body.withoutParentheses = lower src c.body := by
        intro c hc
        refine hpart c.body ?_
        simp only [Stmt.contents, List.mem_cons, List.mem_append, List.mem_flatMap]
        exact .inr (.inr ⟨c, hc, by simp⟩)
      rcases returns with _ | ⟨parameters, body⟩
      · rw [Stmt.withoutParentheses, lower, lower, Expression.lower_withoutParentheses,
          lowerClauses_withoutParentheses src hclauses]
      · rw [Stmt.withoutParentheses, lower, lower, Expression.lower_withoutParentheses,
          hpart body (by simp [Stmt.contents]), lowerClauses_withoutParentheses src hclauses]
    | revertWith error given span =>
      cases error <;>
        rw [Stmt.withoutParentheses, lower, lower, Expression.lowerList_withoutParentheses]
    | revertNamed error given span =>
      rw [Stmt.withoutParentheses, lower, lower, Expression.lowerNamed_withoutParentheses]
    | declaration d initialValue span =>
      rw [Stmt.withoutParentheses, lower, lower, Expression.lowerOption_withoutParentheses]
    | returnValue value span =>
      rw [Stmt.withoutParentheses, lower, lower, Expression.lowerOption_withoutParentheses]
    | emitEvent call span =>
      rw [Stmt.withoutParentheses, lower, lower, Expression.lower_withoutParentheses]
    | _ => rfl

end Statement

/-! ## Trees and findings -/

/-- **Parentheses change nothing.** Every expression lowers to the tree of the expression without
    the parentheses around its values, at every depth and whatever they span, and what is left has
    no value in parentheses. So expressions that differ in parentheses only lower to one tree,
    locations included, and a pass over that tree makes the same of every context. The same holds of
    statements that declare openly what they declare. -/
theorem lower_ignores_parentheses (src : Source) :
    (∀ e : Expr, Expression.lower src e.withoutParentheses = Expression.lower src e
      ∧ ∀ c ∈ e.withoutParentheses.written, c.isParenthesis = false)
    ∧ (∀ e f : Expr, e.withoutParentheses = f.withoutParentheses →
        Expression.lower src e = Expression.lower src f
        ∧ ∀ (options : Options) (c : Context),
          (Node.expression (.lower src e)).walk.foldl (Engine.visit options) c
            = (Node.expression (.lower src f)).walk.foldl (Engine.visit options) c)
    ∧ ∀ s t : Stmt, s.DeclaresOpenly → t.DeclaresOpenly →
        s.withoutParentheses = t.withoutParentheses →
        Statement.lower src s = Statement.lower src t
        ∧ ∀ (options : Options) (c : Context),
          (Node.statement (.lower src s)).walk.foldl (Engine.visit options) c
            = (Node.statement (.lower src t)).walk.foldl (Engine.visit options) c := by
  refine ⟨?_, ?_, ?_⟩
  · intro e
    exact ⟨Expression.lower_withoutParentheses src e, fun c => Expr.isParenthesis_of_mem_written⟩
  · intro e f hbare
    have htree : Expression.lower src e = Expression.lower src f := by
      rw [← Expression.lower_withoutParentheses src e, hbare,
        Expression.lower_withoutParentheses src f]
    exact ⟨htree, fun options c => by rw [htree]⟩
  · intro s t hs ht hbare
    have htree : Statement.lower src s = Statement.lower src t := by
      rw [← Statement.lower_withoutParentheses src hs, hbare,
        Statement.lower_withoutParentheses src ht]
    exact ⟨htree, fun options c => by rw [htree]⟩

/-- `((to).send((1)))` -/
def wrappedSend : Expr :=
  .parenthesis
    (.call (.member (.parenthesis (.identifier ⟨"to", ⟨2, 4⟩⟩) ⟨1, 5⟩) ⟨"send", ⟨6, 10⟩⟩ ⟨1, 10⟩)
      [.parenthesis (.numberLiteral "1" "" none ⟨12, 13⟩) ⟨11, 14⟩] ⟨1, 15⟩) ⟨0, 16⟩

/-- The same call without the parentheses. -/
def plainSend : Expr :=
  .call (.member (.identifier ⟨"to", ⟨2, 4⟩⟩) ⟨"send", ⟨6, 10⟩⟩ ⟨1, 10⟩)
    [.numberLiteral "1" "" none ⟨12, 13⟩] ⟨1, 15⟩

/-- The source that both are read against. -/
def sendSource : Source := .ofString "((to).send((1)));"

theorem declaresOpenly_expression {e : Expr} (h : e.withoutParentheses.declares = false)
    (span : Span) : (Stmt.expression e span).DeclaresOpenly := by
  intro f fSpan hmem
  obtain ⟨rfl, rfl⟩ : f = e ∧ fSpan = span := by
    rw [Stmt.reached_eq] at hmem
    simpa [Stmt.nested, Stmt.contents, Stmt.parts, Fragment.stmt?] using hmem
  intro hdeclares
  exact absurd hdeclares (by simp [h])

/-- Both are one statement of the tree, and the result that it throws away is reported. -/
theorem lower_ignores_parentheses_send :
    Statement.lower sendSource (.expression wrappedSend ⟨0, 16⟩)
      = Statement.lower sendSource (.expression plainSend ⟨0, 16⟩)
    ∧ (Engine.findings ⟨false⟩ .empty
        (.statement (.lower sendSource (.expression wrappedSend ⟨0, 16⟩)))).map Diagnostic.ruleId
      = ["SOL-S004"] := by
  have hwrapped := declaresOpenly_expression (e := wrappedSend) rfl ⟨0, 16⟩
  have hplain := declaresOpenly_expression (e := plainSend) rfl ⟨0, 16⟩
  exact ⟨((lower_ignores_parentheses sendSource).2.2 _ _ hwrapped hplain rfl).1, rfl⟩

end Ast

end SolidityLint
