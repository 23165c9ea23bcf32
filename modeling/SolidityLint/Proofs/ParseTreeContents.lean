import Mathlib.Data.List.Flatten
import Mathlib.Data.List.Perm.Basic
import SolidityLint.Proofs.ParseTreeWalk

set_option autoImplicit false

/-! # The statements written in a parse tree

Statements stand in more places than blocks: a callee may carry a block, as in the tried expression
of `try f() { … } catch { … }`, and such a callee may stand wherever an expression does, also in
what is read as a type. `Fragment.contents` lists all that is directly in a fragment, types included
and the block of a callee as the one statement that it is; the statements written in a fragment are
those met by going down through `contents`.

A statement is reached from another if only statements are between them, and hidden otherwise. The
written statements are the reached and the hidden ones (`Stmt.written_perm`), the reached ones keep
their order (`Stmt.reached_sublist_written`), and nothing is hidden exactly when no callee carries a
block (`Stmt.hidden_eq_nil_iff`). -/

namespace SolidityLint.ParseTree

/-! ## Contents -/

/-- The types in a list of parameters. -/
def parameterTypes (parameters : ParameterList) : List Fragment :=
  (parameters.filterMap id).map fun p => .expr p.type

/-- All that is directly in an expression. The tree has no span for the block that a callee
    carries, so the block takes the span of the whole. -/
def Expr.contents : Expr → List Fragment
  | .callBlock callee statements span => [.expr callee, .stmt (.block statements false span)]
  | .newOf operand _ => [.expr operand]
  | .mappingType key value _ => [.expr key, .expr value]
  | .functionType parameters _ returns _ => parameterTypes parameters ++ parameterTypes returns
  | e => e.parts

/-- All that is directly in a statement. -/
def Stmt.contents : Stmt → List Fragment
  | .declaration d initialValue _ => .expr d.type :: initialValue.toList.map .expr
  | .tryCatch e returns clauses _ =>
      .expr e :: (returns.toList.flatMap (fun r => parameterTypes r.1 ++ [.stmt r.2])
        ++ clauses.flatMap fun c =>
          c.parameter.toList.map (fun p => .expr p.type) ++ [.stmt c.body])
  | s => s.parts

/-- All that is directly in a fragment. -/
def Fragment.contents : Fragment → List Fragment
  | expr e => e.contents
  | stmt s => s.contents

/-! ## Contents are smaller than what they are in -/

theorem Span.sizeOf_pos (s : Span) : 0 < sizeOf s := by
  cases s
  simp only [Span.mk.sizeOf_spec]
  omega

/-- A callee is no smaller than the flag of the block that stands for its statements. -/
theorem Expr.one_lt_sizeOf (e : Expr) : 1 < sizeOf e := by
  cases e with
  | identifier name =>
    cases name
    simp only [Expr.identifier.sizeOf_spec, Name.mk.sizeOf_spec]
    omega
  | stringLiteral first more =>
    cases first
    simp only [Expr.stringLiteral.sizeOf_spec, LiteralPart.mk.sizeOf_spec]
    omega
  | hexLiteral first more =>
    cases first
    simp only [Expr.hexLiteral.sizeOf_spec, LiteralPart.mk.sizeOf_spec]
    omega
  | _ =>
    -- All others end with a span.
    rename_i span
    have := span.sizeOf_pos
    simp; omega

theorem sizeOf_le_of_mem_parameterTypes {parameters : ParameterList} {p : Fragment}
    (h : p ∈ parameterTypes parameters) : sizeOf p ≤ sizeOf parameters := by
  simp only [parameterTypes, List.mem_map, List.mem_filterMap, id] at h
  obtain ⟨q, ⟨slot, hslot, rfl⟩, rfl⟩ := h
  have := List.sizeOf_lt_of_mem hslot
  have := q.sizeOf_type_lt
  simp at *
  omega

theorem Expr.sizeOf_lt_of_mem_contents {e : Expr} {p : Fragment} (h : p ∈ e.contents) :
    sizeOf p < 1 + sizeOf e := by
  cases e with
  | callBlock callee statements span =>
    have := callee.one_lt_sizeOf
    simp only [Expr.contents, List.mem_cons, List.not_mem_nil, or_false] at h
    rcases h with rfl | rfl <;> simp <;> omega
  | newOf operand span =>
    obtain rfl : p = .expr operand := by simpa [Expr.contents] using h
    simp; omega
  | mappingType key value span =>
    simp only [Expr.contents, List.mem_cons, List.not_mem_nil, or_false] at h
    rcases h with rfl | rfl <;> simp <;> omega
  | functionType parameters attributes returns span =>
    rcases List.mem_append.1 h with h | h
    · have := sizeOf_le_of_mem_parameterTypes h
      simp; omega
    · have := sizeOf_le_of_mem_parameterTypes h
      simp; omega
  | _ => exact Expr.sizeOf_lt_of_mem_parts h

theorem Stmt.sizeOf_lt_of_mem_contents {s : Stmt} {p : Fragment} (h : p ∈ s.contents) :
    sizeOf p < 1 + sizeOf s := by
  cases s with
  | declaration d initialValue span =>
    rcases List.mem_cons.1 h with rfl | h
    · cases d
      simp; omega
    · have := Fragment.sizeOf_le_of_mem_toList_map Fragment.sizeOf_expr h
      simp; omega
  | tryCatch e returns clauses span =>
    simp only [Stmt.contents, List.mem_cons, List.mem_append, List.mem_flatMap, List.not_mem_nil,
      or_false, Option.mem_toList, List.mem_map] at h
    rcases h with rfl | ⟨⟨parameters, body⟩, rfl, h | rfl⟩ | ⟨c, hc, ⟨q, hq, rfl⟩ | rfl⟩
    · simp; omega
    · have : sizeOf p ≤ sizeOf parameters := sizeOf_le_of_mem_parameterTypes h
      simp; omega
    · simp; omega
    · have := List.sizeOf_lt_of_mem hc
      have := q.sizeOf_type_lt
      cases c
      simp at hq
      subst hq
      simp at *; omega
    · have := List.sizeOf_lt_of_mem hc
      have := c.sizeOf_body_lt
      simp; omega
  | _ => exact Stmt.sizeOf_lt_of_mem_parts h

namespace Fragment

theorem sizeOf_lt_of_mem_contents {p q : Fragment} (h : q ∈ p.contents) : sizeOf q < sizeOf p := by
  cases p with
  | expr e => simpa using Expr.sizeOf_lt_of_mem_contents h
  | stmt s => simpa using Stmt.sizeOf_lt_of_mem_contents h

/-! ## All fragments below a fragment -/

/-- The fragments at and below `p`, types included: each before its contents, the contents from left
    to right. -/
def fullWalk (p : Fragment) : List Fragment :=
  p :: p.contents.attach.flatMap fun ⟨q, _⟩ => q.fullWalk
termination_by sizeOf p
decreasing_by exact sizeOf_lt_of_mem_contents (by assumption)

theorem fullWalk_eq (p : Fragment) : p.fullWalk = p :: p.contents.flatMap fullWalk := by
  rw [fullWalk]
  simp

/-- What a fragment inherits from its contents holds of every fragment. -/
@[elab_as_elim]
theorem contentInduction {P : Fragment → Prop} (step : ∀ p, (∀ q ∈ p.contents, P q) → P p)
    (p : Fragment) : P p :=
  step p fun q _ => contentInduction step q
termination_by sizeOf p
decreasing_by exact sizeOf_lt_of_mem_contents (by assumption)

/-- The statement that a fragment is, if it is one. -/
def stmt? : Fragment → Option Stmt
  | expr _ => none
  | stmt s => some s

/-- The statements written at and below `p`, in the order of the source. -/
def statements (p : Fragment) : List Stmt := p.fullWalk.filterMap stmt?

theorem statements_eq (p : Fragment) :
    p.statements = p.stmt?.toList ++ p.contents.flatMap statements := by
  unfold statements
  rw [fullWalk_eq, List.filterMap_cons, List.filterMap_flatMap]
  cases p <;> rfl

/-- Is this a callee with a block? -/
def isCallBlock : Fragment → Bool
  | expr (.callBlock ..) => true
  | _ => false

/-- A callee at or below `p` carries a block. -/
def HasCallBlock (p : Fragment) : Prop := ∃ f ∈ p.fullWalk, f.isCallBlock = true

theorem hasCallBlock_iff (p : Fragment) :
    p.HasCallBlock ↔ p.isCallBlock = true ∨ ∃ q ∈ p.contents, q.HasCallBlock := by
  unfold HasCallBlock
  rw [fullWalk_eq]
  simp only [List.mem_cons, List.mem_flatMap, or_and_right, exists_or, exists_eq_left]
  refine or_congr_right ⟨?_, ?_⟩
  · rintro ⟨f, ⟨q, hq, hf⟩, h⟩
    exact ⟨q, hq, f, hf, h⟩
  · rintro ⟨q, hq, f, hf, h⟩
    exact ⟨f, ⟨q, hq, hf⟩, h⟩

end Fragment

/-! ## Statements in expressions -/

namespace Expr

/-- The statements written inside an expression. -/
def enclosed (e : Expr) : List Stmt := (Fragment.expr e).statements

theorem enclosed_eq (e : Expr) : e.enclosed = e.contents.flatMap Fragment.statements :=
  (Fragment.expr e).statements_eq

/-- Only a callee with a block has a statement directly in it. -/
theorem filterMap_stmt?_contents {e : Expr} (h : (Fragment.expr e).isCallBlock = false) :
    e.contents.filterMap Fragment.stmt? = [] := by
  cases e with
  | callBlock callee statements span => exact absurd h (by simp [Fragment.isCallBlock])
  | slice base low high span => cases low <;> cases high <;> rfl
  | _ =>
    simp [contents, parts, parameterTypes, Fragment.stmt?, List.filterMap_map, Function.comp_def]

theorem exists_eq_expr_of_mem_contents {e : Expr} (h : (Fragment.expr e).isCallBlock = false)
    {p : Fragment} (hp : p ∈ e.contents) : ∃ c, p = .expr c := by
  cases p with
  | expr c => exact ⟨c, rfl⟩
  | stmt s =>
    have hs : s ∈ e.contents.filterMap Fragment.stmt? := List.mem_filterMap.2 ⟨_, hp, rfl⟩
    rw [filterMap_stmt?_contents h] at hs
    exact absurd hs (by simp)

/-- An expression has no statement in it exactly when no callee in it carries a block. -/
theorem enclosed_eq_nil_iff (e : Expr) :
    e.enclosed = [] ↔ ¬(Fragment.expr e).HasCallBlock := by
  generalize hp : Fragment.expr e = p
  induction p using Fragment.contentInduction generalizing e with
  | step p ih =>
    subst hp
    rw [Fragment.hasCallBlock_iff, enclosed_eq, List.flatMap_eq_nil_iff]
    cases h : (Fragment.expr e).isCallBlock with
    | true =>
      -- The block is a statement directly in `e`.
      cases e with
      | callBlock callee statements span =>
        refine iff_of_false ?_ (by simp)
        intro hnil
        have hblock := hnil (.stmt (.block statements false span)) (by simp [contents])
        rw [Fragment.statements_eq] at hblock
        exact absurd hblock (by simp [Fragment.stmt?])
      | _ => exact absurd h (by simp [Fragment.isCallBlock])
    | false =>
      constructor
      · rintro hnil (hself | ⟨q, hq, hblock⟩)
        · exact absurd hself (by simp)
        · obtain ⟨c, rfl⟩ := exists_eq_expr_of_mem_contents h hq
          exact (ih _ hq c rfl).1 (hnil _ hq) hblock
      · intro hno q hq
        obtain ⟨c, rfl⟩ := exists_eq_expr_of_mem_contents h hq
        exact (ih _ hq c rfl).2 fun hblock => hno (.inr ⟨_, hq, hblock⟩)

end Expr

/-! ## Reached and hidden statements -/

namespace Stmt

/-- The statements directly in a statement. -/
def nested (s : Stmt) : List Stmt := s.contents.filterMap Fragment.stmt?

/-- The expressions directly in a statement, types included. -/
def operands (s : Stmt) : List Expr := s.contents.filterMap Fragment.expr?

theorem mem_nested_iff {s t : Stmt} : t ∈ s.nested ↔ .stmt t ∈ s.contents := by
  unfold nested
  rw [List.mem_filterMap]
  constructor
  · rintro ⟨p, hp, h⟩
    cases p with
    | expr e => exact absurd h (by simp [Fragment.stmt?])
    | stmt u =>
      obtain rfl : u = t := by simpa [Fragment.stmt?] using h
      exact hp
  · intro h
    exact ⟨_, h, rfl⟩

theorem mem_operands_iff {s : Stmt} {e : Expr} : e ∈ s.operands ↔ .expr e ∈ s.contents := by
  unfold operands
  rw [List.mem_filterMap]
  constructor
  · rintro ⟨p, hp, h⟩
    cases p with
    | expr c =>
      obtain rfl : c = e := by simpa [Fragment.expr?] using h
      exact hp
    | stmt u => exact absurd h (by simp [Fragment.expr?])
  · intro h
    exact ⟨_, h, rfl⟩

theorem sizeOf_lt_of_mem_nested {s t : Stmt} (h : t ∈ s.nested) : sizeOf t < sizeOf s := by
  simpa using sizeOf_lt_of_mem_contents (mem_nested_iff.1 h)

/-- The statements that are reached from `s` through statements only, itself first. -/
def reached (s : Stmt) : List Stmt :=
  s :: s.nested.attach.flatMap fun ⟨t, _⟩ => t.reached
termination_by sizeOf s
decreasing_by exact sizeOf_lt_of_mem_nested (by assumption)

theorem reached_eq (s : Stmt) : s.reached = s :: s.nested.flatMap reached := by
  rw [reached]
  simp

/-- What a statement inherits from the statements directly in it holds of every statement. -/
@[elab_as_elim]
theorem nestedInduction {P : Stmt → Prop} (step : ∀ s, (∀ t ∈ s.nested, P t) → P s) (s : Stmt) :
    P s :=
  step s fun t _ => nestedInduction step t
termination_by sizeOf s
decreasing_by exact sizeOf_lt_of_mem_nested (by assumption)

/-- The statements written in `s` at any depth, itself first. -/
def written (s : Stmt) : List Stmt := (Fragment.stmt s).statements

theorem written_eq (s : Stmt) : s.written = s :: s.contents.flatMap Fragment.statements :=
  (Fragment.stmt s).statements_eq

/-- The statements written in `s` that are only reached through an expression. -/
def hidden (s : Stmt) : List Stmt := s.reached.flatMap fun t => t.operands.flatMap Expr.enclosed

theorem hidden_eq (s : Stmt) :
    s.hidden = s.operands.flatMap Expr.enclosed ++ s.nested.flatMap hidden := by
  unfold hidden
  rw [reached_eq, List.flatMap_cons, List.flatMap_assoc]

open scoped List in
theorem flatMap_statements_perm (ps : List Fragment) :
    ps.flatMap Fragment.statements
      ~ (ps.filterMap Fragment.stmt?).flatMap written
        ++ (ps.filterMap Fragment.expr?).flatMap Expr.enclosed := by
  induction ps with
  | nil => exact List.Perm.refl _
  | cons p rest ih =>
    cases p with
    | stmt s =>
      have hstmt : (Fragment.stmt s).stmt? = some s := rfl
      have hexpr : (Fragment.stmt s).expr? = none := rfl
      rw [List.flatMap_cons, List.filterMap_cons_some hstmt, List.filterMap_cons_none hexpr,
        List.flatMap_cons, List.append_assoc]
      exact ih.append_left _
    | expr e =>
      have hstmt : (Fragment.expr e).stmt? = none := rfl
      have hexpr : (Fragment.expr e).expr? = some e := rfl
      rw [List.flatMap_cons, List.filterMap_cons_none hstmt, List.filterMap_cons_some hexpr,
        List.flatMap_cons]
      exact (ih.append_left _).trans (List.perm_append_comm_assoc _ _ _)

theorem flatMap_written_sublist (ps : List Fragment) :
    ((ps.filterMap Fragment.stmt?).flatMap written).Sublist (ps.flatMap Fragment.statements) := by
  induction ps with
  | nil => exact List.Sublist.refl _
  | cons p rest ih =>
    rw [List.flatMap_cons]
    cases p with
    | stmt s => exact (List.Sublist.refl _).append ih
    | expr e => exact ih.trans (List.sublist_append_right _ _)

open scoped List in
/-- **What is written is reached or hidden**, each occurrence once. -/
theorem written_perm (s : Stmt) : s.written ~ s.reached ++ s.hidden := by
  induction s using nestedInduction with
  | step s ih =>
    rw [written_eq, reached_eq, hidden_eq, List.cons_append]
    refine List.Perm.cons s ?_
    calc s.contents.flatMap Fragment.statements
      _ ~ s.nested.flatMap written ++ s.operands.flatMap Expr.enclosed :=
        flatMap_statements_perm s.contents
      _ ~ s.nested.flatMap (fun t => t.reached ++ t.hidden) ++ s.operands.flatMap Expr.enclosed :=
        (List.Perm.flatMap_left _ ih).append_right _
      _ ~ (s.nested.flatMap reached ++ s.nested.flatMap hidden)
            ++ s.operands.flatMap Expr.enclosed :=
        (List.flatMap_append_perm _ reached hidden).symm.append_right _
      _ ~ s.nested.flatMap reached
            ++ (s.operands.flatMap Expr.enclosed ++ s.nested.flatMap hidden) := by
        rw [List.append_assoc]
        exact List.perm_append_comm.append_left _

/-- What is reached stays in order. -/
theorem reached_sublist_written (s : Stmt) : s.reached.Sublist s.written := by
  induction s using nestedInduction with
  | step s ih =>
    rw [written_eq, reached_eq]
    refine List.Sublist.cons_cons s ?_
    exact (List.Sublist.flatMap_right _ ih).trans (flatMap_written_sublist s.contents)

theorem length_written (s : Stmt) : s.written.length = s.reached.length + s.hidden.length := by
  rw [s.written_perm.length_eq, List.length_append]

/-- **Nothing is hidden exactly when no callee carries a block.** -/
theorem hidden_eq_nil_iff (s : Stmt) : s.hidden = [] ↔ ¬(Fragment.stmt s).HasCallBlock := by
  induction s using nestedInduction with
  | step s ih =>
    rw [hidden_eq, List.append_eq_nil_iff, List.flatMap_eq_nil_iff, List.flatMap_eq_nil_iff,
      Fragment.hasCallBlock_iff]
    constructor
    · rintro ⟨hoperands, hnested⟩ (hself | ⟨p, hp, hblock⟩)
      · exact absurd hself (by simp [Fragment.isCallBlock])
      · cases p with
        | expr e => exact e.enclosed_eq_nil_iff.1 (hoperands e (mem_operands_iff.2 hp)) hblock
        | stmt t =>
          have ht := mem_nested_iff.2 hp
          exact (ih t ht).1 (hnested t ht) hblock
    · intro hno
      refine ⟨fun e he => ?_, fun t ht => ?_⟩
      · exact e.enclosed_eq_nil_iff.2 fun hblock =>
          hno (.inr ⟨_, mem_operands_iff.1 he, hblock⟩)
      · exact (ih t ht).2 fun hblock => hno (.inr ⟨_, mem_nested_iff.1 ht, hblock⟩)

theorem length_reached_eq_iff (s : Stmt) :
    s.reached.length = s.written.length ↔ ¬(Fragment.stmt s).HasCallBlock := by
  rw [← hidden_eq_nil_iff, length_written, ← List.length_eq_zero_iff]
  omega

/-- Whatever is made of each statement, the reached ones give what the written ones give exactly
    when no callee carries a block. -/
theorem map_reached_eq_iff {β : Type} (f : Stmt → β) (s : Stmt) :
    s.reached.map f = s.written.map f ↔ ¬(Fragment.stmt s).HasCallBlock := by
  rw [← length_reached_eq_iff]
  constructor
  · intro h
    simpa using congrArg List.length h
  · intro h
    rw [s.reached_sublist_written.eq_of_length h]

/-- The statements that a body consists of: those of a block, and anything else alone. -/
def bodyStatements : Stmt → List Stmt
  | .block statements _ _ => statements
  | s => [s]

theorem nested_block (statements : List Stmt) (isUnchecked : Bool) (span : Span) :
    (block statements isUnchecked span).nested = statements := by
  show (statements.map Fragment.stmt).filterMap Fragment.stmt? = statements
  rw [List.filterMap_map]
  exact List.filterMap_some

theorem map_bodyStatements_eq_iff {β : Type} (f : Stmt → β) (s : Stmt) :
    (s.bodyStatements.flatMap reached).map f = (s.bodyStatements.flatMap written).map f
      ↔ ¬(Fragment.stmt s).HasCallBlock := by
  rw [← map_reached_eq_iff f]
  cases s with
  | block statements isUnchecked span =>
    have hcontents : (block statements isUnchecked span).contents = statements.map .stmt := rfl
    have hwritten : (block statements isUnchecked span).written
        = block statements isUnchecked span :: statements.flatMap written := by
      rw [written_eq, hcontents, List.flatMap_map]
      rfl
    rw [reached_eq, nested_block, hwritten, List.map_cons, List.map_cons, List.cons_inj_right]
    rfl
  | _ => simp [bodyStatements]

end Stmt

end SolidityLint.ParseTree
