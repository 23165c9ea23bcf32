import SolidityLint.Analysis
import SolidityLint.Proofs.LoweredExpression
import SolidityLint.Proofs.ParseTreeContents

set_option autoImplicit false

/-! # What is visited of a statement

Lowering makes one statement of each statement and keeps the statements directly in it, in order; of
the block that a callee carries it keeps nothing. So the walk of a lowered statement meets exactly
the statements that are reached through statements (`Node.statements_lower`), and it meets all that
are written exactly when no callee carries a block. The success block of a `try` is such a block
when there is no `returns` clause. -/

namespace SolidityLint

open ParseTree (Expr Stmt Fragment CatchClause)

namespace Ast

/-! ## Statements along the walk -/

namespace Node

/-- The statement that a node is, if it is one. -/
def statement? : Node → Option Statement
  | statement s => some s
  | _ => none

/-- The statements at and below `n`, in the order of the walk. -/
def statements (n : Node) : List Statement := n.walk.filterMap statement?

theorem statements_eq (n : Node) :
    n.statements = n.statement?.toList ++ n.children.flatMap statements :=
  n.filterMap_walk_eq statement?

theorem statements_declaration (v : VariableDeclaration) : (declaration v).statements = [] := by
  rw [statements_eq]
  rfl

/-- Below an expression there are only expressions. -/
theorem statements_expression (e : Expression) : (expression e).statements = [] :=
  filterMap_walk_expression statement? (fun _ => rfl) e

end Node

/-- What is directly below a statement is a declaration, an expression or a statement. -/
theorem Statement.mem_children_cases {s : Statement} {n : Node} (h : n ∈ s.children) :
    (∃ v, n = .declaration v) ∨ (∃ e, n = .expression e) ∨ ∃ t, n = .statement t := by
  cases s <;>
    simp only [children, List.mem_cons, List.mem_append, List.mem_map, List.not_mem_nil,
      or_false] at h <;>
    grind

/-- One step of the walk, as far as statements go. -/
theorem Node.statements_statement (s : Statement) :
    (statement s).statements
      = s :: (s.children.filterMap statement?).flatMap fun t => (statement t).statements := by
  rw [statements_eq, List.filterMap_eq_flatMap_toList, List.flatMap_assoc]
  refine congrArg (s :: ·) (List.flatMap_congr fun n hn => ?_)
  rcases Statement.mem_children_cases hn with ⟨v, rfl⟩ | ⟨e, rfl⟩ | ⟨t, rfl⟩
  · exact statements_declaration v
  · exact statements_expression e
  · exact (List.flatMap_singleton _ _).symm

/-! ## The walk of a lowered statement -/

namespace Statement

theorem lowerList_eq_map (src : Source) (ss : List Stmt) :
    lowerList src ss = ss.map (lower src) := by
  induction ss with
  | nil => rfl
  | cons s rest ih => rw [lowerList, ih, List.map_cons]

theorem toList_lowerOption (src : Source) (o : Option Stmt) :
    (lowerOption src o).toList = o.toList.map (lower src) := by
  cases o <;> rfl

theorem lowerClauses_eq_map (src : Source) (clauses : List (CatchClause Expr Stmt)) :
    lowerClauses src clauses = clauses.map fun c => lower src c.body := by
  induction clauses with
  | nil => rfl
  | cons c rest ih => rw [lowerClauses, ih, List.map_cons]

section Children

-- The nodes that a list of parts gives, and which of them are statements.
attribute [local simp] children Node.statement? Fragment.stmt? List.filterMap_cons
  List.filterMap_map List.filterMap_flatMap Function.comp_def Stmt.nested Stmt.contents Stmt.parts
  ParseTree.parameterTypes lower

/-- An expression that stands as a statement has none below it. -/
theorem filterMap_children_ofExpr (src : Source) (e : Expr) (span : ParseTree.Span) :
    (ofExpr src e span).children.filterMap Node.statement? = [] := by
  unfold ofExpr
  split
  · split <;> simp
  · simp

/-- Directly below a lowered statement are the statements directly in it. -/
theorem filterMap_children_lower (src : Source) (s : Stmt) :
    (lower src s).children.filterMap Node.statement? = s.nested.map (lower src) := by
  cases s with
  | expression e span =>
    rw [lower, filterMap_children_ofExpr]
    rfl
  | block statements isUnchecked span => simp [lowerList_eq_map]
  | ifElse condition ifTrue ifFalse span => simp [toList_lowerOption]
  | forLoop init condition update body span => simp [toList_lowerOption]
  | revertWith error arguments span => cases error <;> simp [ofRevert]
  | tryCatch e returns clauses span =>
    have hbodies : (clauses.flatMap fun c => [c.body]) = clauses.map CatchClause.body :=
      List.map_eq_flatMap.symm
    cases returns with
    | none => simp [lowerClauses_eq_map, hbodies]
    | some r => simp [lowerClauses_eq_map, hbodies]
  | _ => simp

end Children

end Statement

/-- **The walk of a lowered statement** meets the statements that are reached through statements, in
    the order in which they are written. -/
theorem Node.statements_lower (src : Source) (s : Stmt) :
    (Node.statement (.lower src s)).statements = s.reached.map (Statement.lower src) := by
  induction s using Stmt.nestedInduction with
  | step s ih =>
    rw [statements_statement, Statement.filterMap_children_lower, Stmt.reached_eq, List.map_cons,
      List.flatMap_map, List.map_flatMap]
    exact congrArg (_ :: ·) (List.flatMap_congr ih)

/-! ## The body of a function -/

theorem Block.statements_lower (src : Source) (s : Stmt) :
    (Block.lower src s).statements = s.bodyStatements.map (Statement.lower src) := by
  unfold Block.lower
  cases s with
  | block statements isUnchecked span =>
    rw [Statement.lower, Statement.lowerList_eq_map]
    rfl
  | expression e span =>
    -- Neither form of an expression statement is a block.
    show (ofStatement (Statement.ofExpr src e span)).statements = [Statement.ofExpr src e span]
    unfold Statement.ofExpr
    split
    · split <;> rfl
    · rfl
  | revertWith error arguments span => cases error <;> rfl
  | tryCatch e returns clauses span => cases returns <;> rfl
  | _ => rfl

theorem Node.statements_body_lower (src : Source) (s : Stmt) :
    (Node.body (.lower src s)).statements
      = (s.bodyStatements.flatMap Stmt.reached).map (Statement.lower src) := by
  rw [statements_eq, children, Block.statements_lower, List.map_map, List.flatMap_map,
    List.map_flatMap]
  exact List.flatMap_congr fun t _ => statements_lower src t

end Ast

/-! ## What is written and what is visited -/

open Ast

namespace ParseTree.Stmt

/-- **A statement is visited as it is written exactly when no callee in it carries a block.** The
    walk of a lowered statement meets the lowered forms of the reached statements in order. They are
    those of the statements that are written, at every depth and in the order of the source, exactly
    when no callee at any depth carries a block, and otherwise they are fewer. The same holds of a
    statement that is the body of a function, whose block is visited as a body and not as a
    statement. -/
theorem visited_as_written_iff (src : Source) (s : Stmt) :
    (Node.statement (.lower src s)).statements = s.reached.map (Statement.lower src)
    ∧ ((Node.statement (.lower src s)).statements = s.written.map (Statement.lower src)
        ↔ ¬(Fragment.stmt s).HasCallBlock)
    ∧ ((Node.statement (.lower src s)).statements.length < s.written.length
        ↔ (Fragment.stmt s).HasCallBlock)
    ∧ ((Node.body (.lower src s)).statements
          = (s.bodyStatements.flatMap written).map (Statement.lower src)
        ↔ ¬(Fragment.stmt s).HasCallBlock) := by
  refine ⟨Node.statements_lower src s, ?_, ?_, ?_⟩
  · rw [Node.statements_lower]
    exact s.map_reached_eq_iff (Statement.lower src)
  · rw [Node.statements_lower, List.length_map, ← not_iff_not, ← length_reached_eq_iff]
    have := s.reached_sublist_written.length_le
    omega
  · rw [Node.statements_body_lower]
    exact s.map_bodyStatements_eq_iff (Statement.lower src)

/-- `try ping() { work; } catch { }`: without a `returns` clause, the success block is carried by
    the tried callee. -/
def tryWithoutReturns : Stmt :=
  .tryCatch
    (.callBlock (.call (.identifier ⟨"ping", ⟨4, 8⟩⟩) [] ⟨4, 10⟩)
      [.expression (.identifier ⟨"work", ⟨13, 17⟩⟩) ⟨13, 17⟩] ⟨4, 20⟩)
    none [⟨none, none, .block [] false ⟨27, 30⟩⟩] ⟨0, 30⟩

/-- A source that throws the result of a call away in such a block. -/
def tryWithoutReturnsSource : String :=
  "contract Vault\x7bfunction probe()external\x7btry this.ping()\x7bto.send(1);\x7dcatch\x7b\x7d\x7d\x7d"

/-- The statement has four statements in it: itself, the success block, what stands in it, and the
    block of the clause. Two of them are visited, and nothing in the source is reported. -/
theorem tryWithoutReturns_not_visited :
    tryWithoutReturns.written.length = 4
    ∧ (∀ src, (Node.statement (.lower src tryWithoutReturns)).statements.length = 2)
    ∧ (Settings.default.analyseSource "Vault.sol" tryWithoutReturnsSource).toOption
      = some ⟨"Vault.sol", [], 0, none⟩ := by
  refine ⟨?_, ?_, ?_⟩
  · decide +kernel
  · intro src
    rw [Node.statements_lower, List.length_map]
    decide +kernel
  · decide +kernel

end ParseTree.Stmt

end SolidityLint
