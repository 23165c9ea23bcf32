import Mathlib.Data.List.Flatten
import Mathlib.Data.List.Perm.Basic
import SolidityLint.Ast.Lower
import SolidityLint.Proofs.ParseTreeContents

set_option autoImplicit false

/-! # The declarations written in a parse tree

Variables are declared by definitions (state variables and constants, fields of structs, parameters
of events, errors, functions and modifiers, and what they return) and by statements (a local
declaration, an assignment to a list that names its slots, the `returns` clause of a `try` and the
parameters of its clauses). `SourceUnit.declared` has the type of each declaration that is written
in a file, at every depth; statements may stand in expressions too, as the block that a callee
carries.

Not all of them survive in the syntax tree. `SourceUnit.seen` leaves out the parameters of clauses,
what a modifier returns, and all that is in the block of a callee; `SourceUnit.unseen` has just
these. What is declared is seen or unseen (`SourceUnit.declared_splits`). -/

namespace SolidityLint.ParseTree

open scoped List

/-! ## Splitting a list of types -/

/-- Of all these types, some are seen and the others unseen, each occurrence once. -/
def Splits (all seen unseen : List Expr) : Prop := all ~ seen ++ unseen

namespace Splits

variable {all more seen seenMore unseen unseenMore : List Expr}

theorem allSeen (types : List Expr) : Splits types types [] := by
  unfold Splits
  rw [List.append_nil]

theorem allUnseen (types : List Expr) : Splits types [] types := List.Perm.refl _

theorem append (h : Splits all seen unseen) (h' : Splits more seenMore unseenMore) :
    Splits (all ++ more) (seen ++ seenMore) (unseen ++ unseenMore) := by
  unfold Splits
  calc all ++ more
    _ ~ (seen ++ unseen) ++ (seenMore ++ unseenMore) := List.Perm.append h h'
    _ ~ seen ++ (seenMore ++ (unseen ++ unseenMore)) := by
      rw [List.append_assoc]
      exact (List.perm_append_comm_assoc unseen seenMore unseenMore).append_left seen
    _ ~ (seen ++ seenMore) ++ (unseen ++ unseenMore) := by rw [List.append_assoc]

theorem flatMap {α : Type} {xs : List α} {all seen unseen : α → List Expr}
    (h : ∀ x ∈ xs, Splits (all x) (seen x) (unseen x)) :
    Splits (xs.flatMap all) (xs.flatMap seen) (xs.flatMap unseen) := by
  unfold Splits
  calc xs.flatMap all
    _ ~ xs.flatMap fun x => seen x ++ unseen x := List.Perm.flatMap_left xs h
    _ ~ xs.flatMap seen ++ xs.flatMap unseen := (List.flatMap_append_perm xs seen unseen).symm

end Splits

/-! ## Statements -/

/-- The types of the filled slots of a list. -/
def slotTypes (slots : ParameterList) : List Expr :=
  (slots.filterMap id).map Parameter.type

/-- The slots with a name of a tuple declaration, which is read as an assignment to a list. -/
def Expr.declaredSlots : Expr → ParameterList
  | .assignment .assign (.list slots _) _ _ => slots.filter Ast.declaresName
  | _ => []

namespace Stmt

/-- The types that a statement declares itself, parameters of clauses apart. -/
def keptTypes : Stmt → List Expr
  | .declaration d _ _ => [d.type]
  | .expression e _ => slotTypes e.declaredSlots
  | .tryCatch _ returns _ _ => returns.toList.flatMap fun r => slotTypes r.1
  | _ => []

/-- The types of the parameters of the clauses of a `try`. -/
def clauseTypes : Stmt → List Expr
  | .tryCatch _ _ clauses _ => clauses.flatMap fun c => c.parameter.toList.map Parameter.type
  | _ => []

/-- All types that a statement declares itself. -/
def ownTypes (s : Stmt) : List Expr := s.keptTypes ++ s.clauseTypes

/-- The types declared in a statement that are seen: those of the statements reached from it,
    parameters of clauses apart. -/
def seenTypes (s : Stmt) : List Expr := s.reached.flatMap keptTypes

/-- The types declared in a statement that are unseen: those of the parameters of clauses, and all
    that are declared in a block that a callee carries. -/
def unseenTypes (s : Stmt) : List Expr :=
  s.reached.flatMap clauseTypes ++ s.hidden.flatMap ownTypes

theorem seenTypes_eq (s : Stmt) : s.seenTypes = s.keptTypes ++ s.nested.flatMap seenTypes := by
  unfold seenTypes
  rw [reached_eq, List.flatMap_cons, List.flatMap_assoc]

/-- A block declares nothing itself. -/
theorem flatMap_seenTypes_bodyStatements (s : Stmt) :
    s.bodyStatements.flatMap seenTypes = s.seenTypes := by
  cases s with
  | block statements isUnchecked span =>
    rw [seenTypes_eq, nested_block]
    rfl
  | _ => exact List.flatMap_singleton ..

end Stmt

/-- The types declared by the statements at and below a fragment. -/
def Fragment.declared (p : Fragment) : List Expr := p.statements.flatMap Stmt.ownTypes

theorem Stmt.declared_splits (s : Stmt) :
    Splits (Fragment.stmt s).declared s.seenTypes s.unseenTypes := by
  have hreached : Splits (s.reached.flatMap ownTypes) s.seenTypes (s.reached.flatMap clauseTypes) :=
    .flatMap fun _ _ => List.Perm.refl _
  have hhidden := Splits.allUnseen (s.hidden.flatMap ownTypes)
  have hboth := hreached.append hhidden
  rw [List.append_nil] at hboth
  calc s.written.flatMap ownTypes
    _ ~ (s.reached ++ s.hidden).flatMap ownTypes := s.written_perm.flatMap_right _
    _ ~ s.reached.flatMap ownTypes ++ s.hidden.flatMap ownTypes := by rw [List.flatMap_append]
    _ ~ s.seenTypes ++ s.unseenTypes := hboth

/-! ## Definitions -/

/-- The values in the arguments of a base, or of a modifier of a function. -/
def Base.values (b : Base) : List Expr := b.arguments.getD []

/-- The values in the attributes of a function. -/
def FunctionAttribute.values : FunctionAttribute → List Expr
  | .base b => b.values
  | .visibility _ | .other => []

/-- What a modifier returns is not kept. Only a contract has modifiers; elsewhere one counts as a
    function. -/
def FunctionDefinition.losesReturns (inContract : Bool) (d : FunctionDefinition) : Bool :=
  inContract && d.kind == .modifier

namespace Member

/-- The types that a definition declares itself. -/
def ownTypes : Member → List Expr
  | .struct d => d.fields.map Declaration.type
  | .event d => d.parameters.map EventParameter.type
  | .error d => d.parameters.map ErrorParameter.type
  | .stateVariable d => [d.type]
  | .function d => slotTypes d.parameters ++ slotTypes d.returns
  | .enum _ | .typeDefinition _ | .annotated _ | .usingFor _ | .semicolon => []

/-- The values directly in a definition: what a variable starts with, and the arguments given to the
    modifiers of a function. -/
def values : Member → List Expr
  | .stateVariable d => d.initialValue.toList
  | .function d => d.attributes.flatMap FunctionAttribute.values
  | .struct _ | .event _ | .error _ | .enum _ | .typeDefinition _ | .annotated _ | .usingFor _
  | .semicolon => []

/-- The body of a definition, if it has one. -/
def body? : Member → Option Stmt
  | .function d => d.body
  | _ => none

/-- The types declared in a definition: by itself, in its types and values, and in its body. -/
def declared (m : Member) : List Expr :=
  m.ownTypes ++ ((m.ownTypes ++ m.values).flatMap (fun e => (Fragment.expr e).declared)
    ++ m.body?.toList.flatMap fun s => (Fragment.stmt s).declared)

/-- The types that a definition declares itself and that are seen. -/
def keptTypes (inContract : Bool) : Member → List Expr
  | .function d =>
      slotTypes d.parameters ++ if d.losesReturns inContract then [] else slotTypes d.returns
  | m => m.ownTypes

/-- The types that a definition declares itself and that are unseen. -/
def lostTypes (inContract : Bool) : Member → List Expr
  | .function d => if d.losesReturns inContract then slotTypes d.returns else []
  | _ => []

/-- The types declared in a definition that are seen. -/
def seen (inContract : Bool) (m : Member) : List Expr :=
  m.keptTypes inContract ++ m.body?.toList.flatMap Stmt.seenTypes

/-- The types declared in a definition that are unseen. -/
def unseen (inContract : Bool) (m : Member) : List Expr :=
  m.lostTypes inContract ++ ((m.ownTypes ++ m.values).flatMap (fun e => (Fragment.expr e).declared)
    ++ m.body?.toList.flatMap Stmt.unseenTypes)

theorem ownTypes_splits (inContract : Bool) (m : Member) :
    Splits m.ownTypes (m.keptTypes inContract) (m.lostTypes inContract) := by
  cases m with
  | function d =>
    have hreturns : Splits (slotTypes d.returns)
        (if d.losesReturns inContract then [] else slotTypes d.returns)
        (if d.losesReturns inContract then slotTypes d.returns else []) := by
      split
      · exact .allUnseen _
      · exact .allSeen _
    exact (Splits.allSeen (slotTypes d.parameters)).append hreturns
  | _ => exact .allSeen _

theorem declared_splits (inContract : Bool) (m : Member) :
    Splits m.declared (m.seen inContract) (m.unseen inContract) := by
  have hbody : Splits (m.body?.toList.flatMap fun s => (Fragment.stmt s).declared)
      (m.body?.toList.flatMap Stmt.seenTypes) (m.body?.toList.flatMap Stmt.unseenTypes) :=
    .flatMap fun s _ => s.declared_splits
  exact (m.ownTypes_splits inContract).append ((Splits.allUnseen _).append hbody)

end Member

/-! ## Files -/

namespace ContractDefinition

/-- The types declared in a contract. -/
def declared (d : ContractDefinition) : List Expr :=
  (d.bases.flatMap Base.values).flatMap (fun e => (Fragment.expr e).declared)
    ++ d.members.flatMap Member.declared

/-- The types in a contract that the tree keeps. -/
def seen (d : ContractDefinition) : List Expr := d.members.flatMap (Member.seen true)

/-- The types in a contract that are dropped: those in the arguments of its bases, and those dropped
    from its members. -/
def unseen (d : ContractDefinition) : List Expr :=
  (d.bases.flatMap Base.values).flatMap (fun e => (Fragment.expr e).declared)
    ++ d.members.flatMap (Member.unseen true)

theorem declared_splits (d : ContractDefinition) : Splits d.declared d.seen d.unseen :=
  (Splits.allUnseen _).append (.flatMap fun m _ => m.declared_splits true)

end ContractDefinition

namespace Item

/-- The types declared in an item of a file. -/
def declared : Item → List Expr
  | .contract d => d.declared
  | .member m => m.declared
  | .pragma _ | .importDirective _ => []

/-- The types in an item of a file that the tree keeps. -/
def seen : Item → List Expr
  | .contract d => d.seen
  | .member m => m.seen false
  | .pragma _ | .importDirective _ => []

/-- The types in an item of a file that are dropped. -/
def unseen : Item → List Expr
  | .contract d => d.unseen
  | .member m => m.unseen false
  | .pragma _ | .importDirective _ => []

theorem declared_splits (i : Item) : Splits i.declared i.seen i.unseen := by
  cases i with
  | contract d => exact d.declared_splits
  | member m => exact m.declared_splits false
  | pragma span => exact .allSeen []
  | importDirective span => exact .allSeen []

end Item

namespace SourceUnit

/-- The types of all variables declared in a file, at every depth. -/
def declared (u : SourceUnit) : List Expr := u.items.flatMap Item.declared

/-- The types of those that survive in the syntax tree. -/
def seen (u : SourceUnit) : List Expr := u.items.flatMap Item.seen

/-- The types of those that do not. -/
def unseen (u : SourceUnit) : List Expr := u.items.flatMap Item.unseen

/-- **What is declared is seen or unseen**, each declaration once. -/
theorem declared_splits (u : SourceUnit) : Splits u.declared u.seen u.unseen :=
  .flatMap fun i _ => i.declared_splits

end SourceUnit

end SolidityLint.ParseTree
