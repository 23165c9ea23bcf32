import Mathlib.Data.List.Basic
import SolidityLint.Proofs.Walk

set_option autoImplicit false

/-! # Trees without locations

`unlocated` replaces every location in a tree by the location of nothing, those of type names too,
and keeps all else. Two trees that differ only in where things are written have the same unlocated
form.

The children of an unlocated node are its children, unlocated, so the walk of an unlocated tree is
the walk of the tree, unlocated node by node (`Node.walk_unlocated`). Every question that is asked
of a node without looking at a location has the same answer for both. -/

namespace SolidityLint.Ast

/-! ## Leaves -/

/-- A type without its location. -/
def TypeName.unlocated (t : TypeName) : TypeName := { t with loc := .zero }

/-- An uninspected part without its location. -/
def OtherNode.unlocated (n : OtherNode) : OtherNode := { n with loc := .zero }

/-- A declaration without its location and that of its type. -/
def VariableDeclaration.unlocated (v : VariableDeclaration) : VariableDeclaration :=
  { v with typeName := v.typeName.unlocated, loc := .zero }

/-! ## Expressions -/

mutual

/-- An expression without its locations. -/
def Expression.unlocated : Expression → Expression
  | .identifier name _ => .identifier name .zero
  | .memberAccess base member _ => .memberAccess base.unlocated member .zero
  | .indexAccess base index _ => .indexAccess base.unlocated (unlocatedOption index) .zero
  | .functionCall callee arguments names _ =>
      .functionCall callee.unlocated (unlocatedList arguments) names .zero
  | .callOptions callee names values _ =>
      .callOptions callee.unlocated names (unlocatedList values) .zero
  | .binaryOperation operator left right _ =>
      .binaryOperation operator left.unlocated right.unlocated .zero
  | .unaryOperation operator operand leading _ =>
      .unaryOperation operator operand.unlocated leading .zero
  | .conditional condition ifTrue ifFalse _ =>
      .conditional condition.unlocated ifTrue.unlocated ifFalse.unlocated .zero
  | .literal kind value unit _ => .literal kind value unit .zero
  | .tuple components isArray _ => .tuple (unlocatedSlots components) isArray .zero
  | .newExpression typeName _ => .newExpression typeName.unlocated .zero
  | .elementaryTypeName typeName => .elementaryTypeName typeName.unlocated
  | .other node => .other node.unlocated

/-- An operand that may be missing, without its locations. -/
def Expression.unlocatedOption : Option Expression → Option Expression
  | some e => some e.unlocated
  | none => none

/-- Some expressions without their locations. -/
def Expression.unlocatedList : List Expression → List Expression
  | [] => []
  | e :: rest => e.unlocated :: unlocatedList rest

/-- The slots of a tuple without their locations. -/
def Expression.unlocatedSlots : List (Option Expression) → List (Option Expression)
  | [] => []
  | some e :: rest => some e.unlocated :: unlocatedSlots rest
  | none :: rest => none :: unlocatedSlots rest

end

namespace Expression

theorem unlocatedOption_eq_map (o : Option Expression) : unlocatedOption o = o.map unlocated := by
  cases o <;> rfl

theorem unlocatedList_eq_map (es : List Expression) : unlocatedList es = es.map unlocated := by
  induction es with
  | nil => rfl
  | cons e rest ih => rw [unlocatedList, ih, List.map_cons]

theorem unlocatedSlots_eq_map (slots : List (Option Expression)) :
    unlocatedSlots slots = slots.map (Option.map unlocated) := by
  induction slots with
  | nil => rfl
  | cons slot rest ih =>
    cases slot with
    | none => rw [unlocatedSlots, ih, List.map_cons, Option.map_none]
    | some e => rw [unlocatedSlots, ih, List.map_cons, Option.map_some]

end Expression

/-! ## Statements -/

mutual

/-- A statement without its locations. -/
def Statement.unlocated : Statement → Statement
  | .block statements isUnchecked _ => .block (unlocatedList statements) isUnchecked .zero
  | .expression e _ => .expression e.unlocated .zero
  | .variableDeclaration declared initialValue _ =>
      .variableDeclaration (declared.map (Option.map VariableDeclaration.unlocated))
        (initialValue.map Expression.unlocated) .zero
  | .ifElse condition ifTrue ifFalse _ =>
      .ifElse condition.unlocated ifTrue.unlocated (unlocatedOption ifFalse) .zero
  | .forLoop init condition update body _ =>
      .forLoop (unlocatedOption init) (condition.map Expression.unlocated)
        (update.map Expression.unlocated) (unlocatedOption body) .zero
  | .whileLoop condition body _ => .whileLoop condition.unlocated body.unlocated .zero
  | .doWhile body condition _ => .doWhile body.unlocated condition.unlocated .zero
  | .returnValue value _ => .returnValue (value.map Expression.unlocated) .zero
  | .emitEvent call _ => .emitEvent call.unlocated .zero
  | .revertWith error arguments _ =>
      .revertWith error (arguments.map Expression.unlocated) .zero
  | .tryCatch e returns body catchBodies _ =>
      .tryCatch e.unlocated (returns.map VariableDeclaration.unlocated) (unlocatedOption body)
        (unlocatedList catchBodies) .zero
  | .other node => .other node.unlocated

/-- A statement that may be missing, without its locations. -/
def Statement.unlocatedOption : Option Statement → Option Statement
  | some s => some s.unlocated
  | none => none

/-- Some statements without their locations. -/
def Statement.unlocatedList : List Statement → List Statement
  | [] => []
  | s :: rest => s.unlocated :: unlocatedList rest

end

namespace Statement

theorem unlocatedOption_eq_map (o : Option Statement) : unlocatedOption o = o.map unlocated := by
  cases o <;> rfl

theorem unlocatedList_eq_map (ss : List Statement) : unlocatedList ss = ss.map unlocated := by
  induction ss with
  | nil => rfl
  | cons s rest ih => rw [unlocatedList, ih, List.map_cons]

end Statement

/-- A body without its locations. -/
def Block.unlocated (b : Block) : Block :=
  { b with statements := b.statements.map Statement.unlocated, loc := .zero }

/-! ## Declarations -/

/-- A pragma directive without its location. -/
def PragmaDirective.unlocated (d : PragmaDirective) : PragmaDirective := { d with loc := .zero }

/-- An import directive without its location. -/
def ImportDirective.unlocated (d : ImportDirective) : ImportDirective := { d with loc := .zero }

/-- A base of a contract without its locations. -/
def InheritanceSpecifier.unlocated (s : InheritanceSpecifier) : InheritanceSpecifier :=
  { s with arguments := s.arguments.map Expression.unlocated, loc := .zero }

/-- A structure without its locations. -/
def StructDefinition.unlocated (d : StructDefinition) : StructDefinition :=
  { d with members := d.members.map VariableDeclaration.unlocated, loc := .zero }

/-- An enumeration without its location. -/
def EnumDefinition.unlocated (d : EnumDefinition) : EnumDefinition := { d with loc := .zero }

/-- An event without its locations. -/
def EventDefinition.unlocated (d : EventDefinition) : EventDefinition :=
  { d with parameters := d.parameters.map VariableDeclaration.unlocated, loc := .zero }

/-- An error definition without its locations. -/
def ErrorDefinition.unlocated (d : ErrorDefinition) : ErrorDefinition :=
  { d with parameters := d.parameters.map VariableDeclaration.unlocated, loc := .zero }

/-- A declaration of state variables without its locations. -/
def StateVariableDeclaration.unlocated (d : StateVariableDeclaration) : StateVariableDeclaration :=
  { d with
    declared := d.declared.map VariableDeclaration.unlocated
    initialValue := d.initialValue.map Expression.unlocated
    loc := .zero }

/-- A modifier without its locations. -/
def ModifierDefinition.unlocated (d : ModifierDefinition) : ModifierDefinition :=
  { d with
    parameters := d.parameters.map VariableDeclaration.unlocated
    body := d.body.map Block.unlocated
    loc := .zero }

/-- A function without its locations. -/
def FunctionDefinition.unlocated (d : FunctionDefinition) : FunctionDefinition :=
  { d with
    parameters := d.parameters.map VariableDeclaration.unlocated
    returnParameters := d.returnParameters.map VariableDeclaration.unlocated
    body := d.body.map Block.unlocated
    loc := .zero }

theorem FunctionDefinition.body_unlocated (d : FunctionDefinition) :
    d.unlocated.body = d.body.map Block.unlocated := rfl

/-- A member of a contract without its locations. -/
def Member.unlocated : Member → Member
  | .struct d => .struct d.unlocated
  | .enum d => .enum d.unlocated
  | .stateVariable d => .stateVariable d.unlocated
  | .event d => .event d.unlocated
  | .error d => .error d.unlocated
  | .modifier d => .modifier d.unlocated
  | .function d => .function d.unlocated
  | .other n => .other n.unlocated

/-- A contract without its locations. -/
def ContractDefinition.unlocated (c : ContractDefinition) : ContractDefinition :=
  { c with
    bases := c.bases.map InheritanceSpecifier.unlocated
    members := c.members.map Member.unlocated
    loc := .zero }

/-- An item of a file without its locations. -/
def TopLevelItem.unlocated : TopLevelItem → TopLevelItem
  | .pragma d => .pragma d.unlocated
  | .importDirective d => .importDirective d.unlocated
  | .contract d => .contract d.unlocated
  | .event d => .event d.unlocated
  | .error d => .error d.unlocated
  | .struct d => .struct d.unlocated
  | .enum d => .enum d.unlocated
  | .function d => .function d.unlocated
  | .stateVariable d => .stateVariable d.unlocated
  | .other n => .other n.unlocated

/-- A source file without its locations. -/
def SourceUnit.unlocated (u : SourceUnit) : SourceUnit :=
  ⟨u.items.map TopLevelItem.unlocated, .zero⟩

/-! ## Nodes -/

/-- A node without its locations. -/
def Node.unlocated : Node → Node
  | sourceUnit u => sourceUnit u.unlocated
  | pragma d => pragma d.unlocated
  | importDirective d => importDirective d.unlocated
  | contract d => contract d.unlocated
  | inheritance s => inheritance s.unlocated
  | struct d => struct d.unlocated
  | enum d => enum d.unlocated
  | event d => event d.unlocated
  | error d => error d.unlocated
  | modifier d => modifier d.unlocated
  | function d => function d.unlocated
  | stateVariable d => stateVariable d.unlocated
  | declaration v => declaration v.unlocated
  | body b => body b.unlocated
  | statement s => statement s.unlocated
  | expression e => expression e.unlocated
  | other n => other n.unlocated

theorem Member.toNode_unlocated (m : Member) : m.unlocated.toNode = m.toNode.unlocated := by
  cases m <;> rfl

theorem TopLevelItem.toNode_unlocated (i : TopLevelItem) :
    i.unlocated.toNode = i.toNode.unlocated := by
  cases i <;> rfl

/-- Filled slots stay filled. -/
theorem filterMap_optionMap {α β : Type} (f : α → β) (slots : List (Option α)) :
    slots.filterMap (fun slot => slot.map f) = (slots.filterMap id).map f := by
  rw [List.map_filterMap]
  rfl

section Children

attribute [local simp] filterMap_optionMap Option.toList_map Expression.unlocatedOption_eq_map
  Expression.unlocatedList_eq_map Expression.unlocatedSlots_eq_map Statement.unlocatedOption_eq_map
  Statement.unlocatedList_eq_map Function.comp_def

theorem Expression.children_unlocated (e : Expression) :
    e.unlocated.children = e.children.map unlocated := by
  cases e <;> simp [unlocated, children]

theorem Statement.children_unlocated (s : Statement) :
    s.unlocated.children = s.children.map Node.unlocated := by
  cases s <;> simp [unlocated, children, Node.unlocated]

/-- One step of the walk of an unlocated tree. -/
theorem Node.children_unlocated (n : Node) : n.unlocated.children = n.children.map unlocated := by
  cases n with
  | sourceUnit u =>
    simp [unlocated, children, SourceUnit.unlocated, TopLevelItem.toNode_unlocated]
  | contract c =>
    simp [unlocated, children, ContractDefinition.unlocated, Member.toNode_unlocated]
  | inheritance s => simp [unlocated, children, InheritanceSpecifier.unlocated]
  | struct d => simp [unlocated, children, StructDefinition.unlocated]
  | event d => simp [unlocated, children, EventDefinition.unlocated]
  | error d => simp [unlocated, children, ErrorDefinition.unlocated]
  | modifier d => simp [unlocated, children, ModifierDefinition.unlocated]
  | function d => simp [unlocated, children, FunctionDefinition.unlocated]
  | stateVariable d => simp [unlocated, children, StateVariableDeclaration.unlocated]
  | body b => simp [unlocated, children, Block.unlocated]
  | statement s => exact s.children_unlocated
  | expression e =>
    show e.unlocated.children.map expression = (e.children.map expression).map unlocated
    rw [e.children_unlocated, List.map_map, List.map_map]
    rfl
  | _ => rfl

end Children

/-- **The walk of an unlocated tree** is the walk of the tree, unlocated. -/
theorem Node.walk_unlocated (n : Node) : n.unlocated.walk = n.walk.map unlocated := by
  induction n using childInduction with
  | step n ih =>
    rw [walk_eq, walk_eq n, children_unlocated, List.flatMap_map, List.map_cons, List.map_flatMap]
    exact congrArg (_ :: ·) (List.flatMap_congr ih)

/-! ## Questions that no location answers -/

namespace Expression

@[simp] theorem identifierName_unlocated (e : Expression) :
    e.unlocated.identifierName = e.identifierName := by
  cases e <;> rfl

@[simp] theorem baseIdentifier_unlocated :
    ∀ e : Expression, e.unlocated.baseIdentifier = e.baseIdentifier
  | memberAccess base _ _ => baseIdentifier_unlocated base
  | indexAccess base _ _ => baseIdentifier_unlocated base
  | identifier .. | functionCall .. | callOptions .. | binaryOperation .. | unaryOperation ..
  | conditional .. | literal .. | tuple .. | newExpression .. | elementaryTypeName ..
  | other .. => rfl

theorem isNumberOne_iff {e : Expression} :
    e.isNumberOne = true ↔ ∃ loc, e = literal .number "1" none loc := by
  fun_cases isNumberOne e with
  | case1 loc => simp
  | case2 e hne => simpa using hne

@[simp] theorem isNumberOne_unlocated (e : Expression) :
    e.unlocated.isNumberOne = e.isNumberOne := by
  rw [Bool.eq_iff_iff, isNumberOne_iff, isNumberOne_iff]
  cases e <;> simp [unlocated]

@[simp] theorem withoutOptions_unlocated (e : Expression) :
    e.unlocated.withoutOptions = e.withoutOptions.unlocated := by
  cases e <;> rfl

@[simp] theorem calledMember_unlocated (e : Expression) :
    e.unlocated.calledMember = e.calledMember := by
  unfold calledMember
  rw [withoutOptions_unlocated]
  cases e.withoutOptions <;> rfl

@[simp] theorem calledFunction_unlocated (e : Expression) :
    e.unlocated.calledFunction = e.calledFunction := by
  unfold calledFunction
  rw [withoutOptions_unlocated, identifierName_unlocated]

end Expression

namespace Node

theorem isLowLevelCall_unlocated (n : Node) : n.unlocated.isLowLevelCall = n.isLowLevelCall := by
  cases n with
  | expression e =>
    cases e with
    | functionCall callee => exact congrArg (· == some "call") callee.calledMember_unlocated
    | _ => rfl
  | _ => rfl

theorem isIdentifierNamed_unlocated (name : String) (n : Node) :
    n.unlocated.isIdentifierNamed name = n.isIdentifierNamed name := by
  cases n with
  | expression e => cases e <;> rfl
  | _ => rfl

@[simp] theorem containsLowLevelCall_unlocated (n : Node) :
    n.unlocated.containsLowLevelCall = n.containsLowLevelCall := by
  rw [containsLowLevelCall_eq_any_walk, containsLowLevelCall_eq_any_walk, walk_unlocated,
    List.any_map]
  exact congrArg n.walk.any (funext isLowLevelCall_unlocated)

@[simp] theorem countIdentifier_unlocated (name : String) (n : Node) :
    n.unlocated.countIdentifier name = n.countIdentifier name := by
  rw [countIdentifier_eq_countP_walk, countIdentifier_eq_countP_walk, walk_unlocated,
    List.countP_map]
  exact congrArg (List.countP · n.walk) (funext (isIdentifierNamed_unlocated name))

@[simp] theorem kindName_unlocated (n : Node) : n.unlocated.kindName = n.kindName := by
  cases n with
  | statement s => cases s <;> rfl
  | expression e => cases e <;> rfl
  | _ => rfl

end Node

theorem ContractDefinition.functions_unlocated (c : ContractDefinition) :
    c.unlocated.functions = c.functions.map FunctionDefinition.unlocated := by
  unfold functions
  rw [List.map_filterMap]
  show (c.members.map Member.unlocated).filterMap _ = _
  rw [List.filterMap_map]
  refine List.filterMap_congr fun m _ => ?_
  cases m <;> rfl

end SolidityLint.Ast
