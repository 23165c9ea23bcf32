import SolidityLint.Ast

set_option autoImplicit false

/-! # Nodes and the walk

The tree stores its parts in several types; a `Node` is a part of any of them, so that one function
can answer for all. `Node.children` lists the parts directly below a node in field order, and the
walk, the search for low-level calls and the count of identifiers are all defined from it alone:
each visits a node and then, from left to right, what is below it.

The recursion ends because a child is smaller than its parent (`Node.sizeOf_lt_of_mem_children`). -/

namespace SolidityLint.Ast

/-- A part of the tree, of whatever type. -/
inductive Node where
  | sourceUnit (unit : SourceUnit)
  | pragma (directive : PragmaDirective)
  | importDirective (directive : ImportDirective)
  | contract (definition : ContractDefinition)
  | inheritance (specifier : InheritanceSpecifier)
  | struct (definition : StructDefinition)
  | enum (definition : EnumDefinition)
  | event (definition : EventDefinition)
  | error (definition : ErrorDefinition)
  | modifier (definition : ModifierDefinition)
  | function (definition : FunctionDefinition)
  | stateVariable (declaration : StateVariableDeclaration)
  | declaration (declaration : VariableDeclaration)
  /-- The body of a function or of a modifier. -/
  | body (block : Block)
  | statement (statement : Statement)
  | expression (expression : Expression)
  | other (node : OtherNode)
deriving Repr, Inhabited

/-- A member of a contract as a node. -/
def Member.toNode : Member → Node
  | struct d => .struct d
  | enum d => .enum d
  | stateVariable d => .stateVariable d
  | event d => .event d
  | error d => .error d
  | modifier d => .modifier d
  | function d => .function d
  | other n => .other n

/-- An item of a file as a node. -/
def TopLevelItem.toNode : TopLevelItem → Node
  | pragma d => .pragma d
  | importDirective d => .importDirective d
  | contract d => .contract d
  | event d => .event d
  | error d => .error d
  | struct d => .struct d
  | enum d => .enum d
  | function d => .function d
  | stateVariable d => .stateVariable d
  | other n => .other n

/-! ## Kinds, locations and children -/

/-- The kind of an expression, as the JSON form of the tree names it. -/
def Expression.kindName : Expression → String
  | identifier .. => "Identifier"
  | memberAccess .. => "MemberAccess"
  | indexAccess .. => "IndexAccess"
  | functionCall .. => "FunctionCall"
  | callOptions .. => "NameValueExpression"
  | binaryOperation .. => "BinaryOperation"
  | unaryOperation .. => "UnaryOperation"
  | conditional .. => "Conditional"
  | literal .. => "Literal"
  | tuple .. => "TupleExpression"
  | newExpression .. => "NewExpression"
  | elementaryTypeName .. => "ElementaryTypeName"
  | other .. => "Other"

/-- The kind of a statement, as the JSON form of the tree names it. -/
def Statement.kindName : Statement → String
  | block .. => "Block"
  | expression .. => "ExpressionStatement"
  | variableDeclaration .. => "VariableDeclarationStatement"
  | ifElse .. => "IfStatement"
  | forLoop .. => "ForStatement"
  | whileLoop .. => "WhileStatement"
  | doWhile .. => "DoWhileStatement"
  | returnValue .. => "ReturnStatement"
  | emitEvent .. => "EmitStatement"
  | revertWith .. => "RevertStatement"
  | tryCatch .. => "TryStatement"
  | other .. => "Other"

/-- The parts directly below an expression. -/
def Expression.children : Expression → List Expression
  | memberAccess base _ _ => [base]
  | indexAccess base index _ => base :: index.toList
  | functionCall callee arguments _ _ => callee :: arguments
  | callOptions callee _ values _ => callee :: values
  | binaryOperation _ left right _ => [left, right]
  | unaryOperation _ operand _ _ => [operand]
  | conditional condition ifTrue ifFalse _ => [condition, ifTrue, ifFalse]
  | tuple components _ _ => components.filterMap id
  | identifier .. | literal .. | newExpression .. | elementaryTypeName .. | other .. => []

/-- The parts directly below a statement. -/
def Statement.children : Statement → List Node
  | block statements _ _ => statements.map .statement
  | expression e _ => [.expression e]
  | variableDeclaration declared initialValue _ =>
      (declared.filterMap id).map .declaration ++ initialValue.toList.map .expression
  | ifElse condition ifTrue ifFalse _ =>
      .expression condition :: .statement ifTrue :: ifFalse.toList.map .statement
  | forLoop init condition update body _ =>
      init.toList.map .statement ++ condition.toList.map .expression
        ++ update.toList.map .expression ++ body.toList.map .statement
  | whileLoop condition body _ => [.expression condition, .statement body]
  | doWhile body condition _ => [.statement body, .expression condition]
  | returnValue value _ => value.toList.map .expression
  | emitEvent call _ => [.expression call]
  | revertWith _ arguments _ => arguments.map .expression
  | tryCatch e returns body catchBodies _ =>
      .expression e :: (returns.map .declaration ++ body.toList.map .statement
        ++ catchBodies.map .statement)
  | other .. => []

namespace Node

/-- The name of the shape of a node. -/
def kindName : Node → String
  | sourceUnit _ => "SourceUnit"
  | pragma _ => "PragmaDirective"
  | importDirective _ => "ImportDirective"
  | contract _ => "ContractDefinition"
  | inheritance _ => "InheritanceSpecifier"
  | struct _ => "StructDefinition"
  | enum _ => "EnumDefinition"
  | event _ => "EventDefinition"
  | error _ => "ErrorDefinition"
  | modifier _ => "ModifierDefinition"
  | function _ => "FunctionDefinition"
  | stateVariable _ => "StateVariableDeclaration"
  | declaration _ => "VariableDeclaration"
  | body _ => "Block"
  | statement s => s.kindName
  | expression e => e.kindName
  | other _ => "Other"

/-- Where a node is written. -/
def loc : Node → Location
  | sourceUnit n => n.loc
  | pragma n => n.loc
  | importDirective n => n.loc
  | contract n => n.loc
  | inheritance n => n.loc
  | struct n => n.loc
  | enum n => n.loc
  | event n => n.loc
  | error n => n.loc
  | modifier n => n.loc
  | function n => n.loc
  | stateVariable n => n.loc
  | declaration n => n.loc
  | body n => n.loc
  | statement n => n.loc
  | expression n => n.loc
  | other n => n.loc

/-- The parts directly below a node, in the order of the fields that hold them. -/
def children : Node → List Node
  | sourceUnit unit => unit.items.map TopLevelItem.toNode
  | contract c => c.bases.map inheritance ++ c.members.map Member.toNode
  | inheritance s => s.arguments.map expression
  | struct d => d.members.map declaration
  | event d => d.parameters.map declaration
  | error d => d.parameters.map declaration
  | modifier d => d.parameters.map declaration ++ d.body.toList.map body
  | function d =>
      d.parameters.map declaration ++ d.returnParameters.map declaration ++ d.body.toList.map body
  | stateVariable d => d.declared.map declaration ++ d.initialValue.toList.map expression
  | body b => b.statements.map statement
  | statement s => s.children
  | expression e => e.children.map expression
  | pragma _ | importDirective _ | enum _ | declaration _ | other _ => []

end Node

/-! ## Children are smaller than their parent -/

theorem Expression.sizeOf_lt_of_mem_children {e c : Expression} (h : c ∈ e.children) :
    sizeOf c < sizeOf e := by
  cases e <;> simp only [Expression.children, List.mem_cons, List.not_mem_nil, or_false] at h
  case memberAccess => subst h; simp; omega
  case indexAccess base index _ =>
    rcases h with rfl | h
    · simp; omega
    · cases index <;> simp at h
      subst h; simp; omega
  case functionCall callee arguments _ _ =>
    rcases h with rfl | h
    · simp; omega
    · have := List.sizeOf_lt_of_mem h
      simp; omega
  case callOptions callee _ values _ =>
    rcases h with rfl | h
    · simp; omega
    · have := List.sizeOf_lt_of_mem h
      simp; omega
  case binaryOperation => rcases h with rfl | rfl <;> simp <;> omega
  case unaryOperation => subst h; simp; omega
  case conditional => rcases h with rfl | rfl | rfl <;> simp <;> omega
  case tuple components _ _ =>
    simp only [List.mem_filterMap, id] at h
    obtain ⟨_, ho, rfl⟩ := h
    have := List.sizeOf_lt_of_mem ho
    simp at this ⊢; omega

theorem Statement.sizeOf_lt_of_mem_children {s : Statement} {c : Node} (h : c ∈ s.children) :
    sizeOf c < 1 + sizeOf s := by
  cases s <;> simp only [Statement.children, List.mem_cons, List.mem_map, List.mem_append,
    Option.mem_toList, List.mem_filterMap, List.not_mem_nil, or_false, id] at h
  case block statements _ _ =>
    obtain ⟨t, ht, rfl⟩ := h
    have := List.sizeOf_lt_of_mem ht
    simp; omega
  case expression => subst h; simp; omega
  case variableDeclaration declared initialValue _ =>
    rcases h with ⟨v, ⟨o, ho, rfl⟩, rfl⟩ | ⟨e, rfl, rfl⟩
    · have := List.sizeOf_lt_of_mem ho
      simp at this ⊢; omega
    · simp; omega
  case ifElse => rcases h with rfl | rfl | ⟨t, rfl, rfl⟩ <;> simp <;> omega
  case forLoop =>
    rcases h with ((⟨t, rfl, rfl⟩ | ⟨t, rfl, rfl⟩) | ⟨t, rfl, rfl⟩) | ⟨t, rfl, rfl⟩ <;>
      simp <;> omega
  case whileLoop => rcases h with rfl | rfl <;> simp <;> omega
  case doWhile => rcases h with rfl | rfl <;> simp <;> omega
  case returnValue => obtain ⟨e, rfl, rfl⟩ := h; simp; omega
  case emitEvent => subst h; simp; omega
  case revertWith =>
    obtain ⟨e, he, rfl⟩ := h
    have := List.sizeOf_lt_of_mem he
    simp; omega
  case tryCatch =>
    rcases h with rfl | (⟨v, hv, rfl⟩ | ⟨t, rfl, rfl⟩) | ⟨t, ht, rfl⟩
    · simp; omega
    · have := List.sizeOf_lt_of_mem hv
      simp; omega
    · simp; omega
    · have := List.sizeOf_lt_of_mem ht
      simp; omega

theorem Member.sizeOf_toNode (m : Member) : sizeOf m.toNode = sizeOf m := by
  cases m <;> simp [Member.toNode]

theorem TopLevelItem.sizeOf_toNode (i : TopLevelItem) : sizeOf i.toNode = sizeOf i := by
  cases i <;> simp [TopLevelItem.toNode]

namespace Node

private theorem sizeOf_lt_of_mem_map {α : Type} [SizeOf α] {f : α → Node} {xs : List α} {c : Node}
    (hf : ∀ x, sizeOf (f x) ≤ 1 + sizeOf x) (h : c ∈ xs.map f) : sizeOf c ≤ sizeOf xs := by
  obtain ⟨x, hx, rfl⟩ := List.mem_map.1 h
  have := List.sizeOf_lt_of_mem hx
  have := hf x
  omega

private theorem sizeOf_lt_of_mem_toList_map {α : Type} [SizeOf α] {f : α → Node} {o : Option α}
    {c : Node} (hf : ∀ x, sizeOf (f x) ≤ 1 + sizeOf x) (h : c ∈ o.toList.map f) :
    sizeOf c ≤ sizeOf o := by
  cases o with
  | none => simp at h
  | some x =>
    simp at h
    subst h
    simpa using hf x

theorem sizeOf_lt_of_mem_children {n c : Node} (h : c ∈ n.children) : sizeOf c < sizeOf n := by
  cases n <;> simp only [children, List.mem_append, List.not_mem_nil] at h
  case sourceUnit u =>
    have := sizeOf_lt_of_mem_map (fun i => by rw [TopLevelItem.sizeOf_toNode]; omega) h
    cases u; simp at this ⊢; omega
  case contract d =>
    cases d
    rcases h with h | h
    · have := sizeOf_lt_of_mem_map (by simp) h
      simp at this ⊢; omega
    · have := sizeOf_lt_of_mem_map (fun m => by rw [Member.sizeOf_toNode]; omega) h
      simp at this ⊢; omega
  case inheritance s =>
    have := sizeOf_lt_of_mem_map (by simp) h
    cases s; simp at this ⊢; omega
  case struct d =>
    have := sizeOf_lt_of_mem_map (by simp) h
    cases d; simp at this ⊢; omega
  case event d =>
    have := sizeOf_lt_of_mem_map (by simp) h
    cases d; simp at this ⊢; omega
  case error d =>
    have := sizeOf_lt_of_mem_map (by simp) h
    cases d; simp at this ⊢; omega
  case modifier d =>
    cases d
    rcases h with h | h
    · have := sizeOf_lt_of_mem_map (by simp) h
      simp at this ⊢; omega
    · have := sizeOf_lt_of_mem_toList_map (by simp) h
      simp at this ⊢; omega
  case function d =>
    cases d
    rcases h with (h | h) | h
    · have := sizeOf_lt_of_mem_map (by simp) h
      simp at this ⊢; omega
    · have := sizeOf_lt_of_mem_map (by simp) h
      simp at this ⊢; omega
    · have := sizeOf_lt_of_mem_toList_map (by simp) h
      simp at this ⊢; omega
  case stateVariable d =>
    cases d
    rcases h with h | h
    · have := sizeOf_lt_of_mem_map (by simp) h
      simp at this ⊢; omega
    · have := sizeOf_lt_of_mem_toList_map (by simp) h
      simp at this ⊢; omega
  case body b =>
    have := sizeOf_lt_of_mem_map (by simp) h
    cases b; simp at this ⊢; omega
  case statement s => simpa using Statement.sizeOf_lt_of_mem_children h
  case expression e =>
    obtain ⟨x, hx, rfl⟩ := List.mem_map.1 h
    simpa using Expression.sizeOf_lt_of_mem_children hx

/-! ## Walking the tree -/

/-- The nodes at and below `n`: each before what is below it, siblings from left to right. -/
def walk (n : Node) : List Node :=
  n :: n.children.attach.flatMap fun ⟨c, _⟩ => c.walk
termination_by sizeOf n
decreasing_by exact sizeOf_lt_of_mem_children (by assumption)

theorem walk_eq (n : Node) : n.walk = n :: n.children.flatMap walk := by
  rw [walk]
  simp

/-- Is `n` itself a call `x.call(...)`, with or without call options? -/
def isLowLevelCall : Node → Bool
  | expression (.functionCall callee _ _ _) => callee.calledMember == some "call"
  | _ => false

/-- Is there a call `x.call(...)` at or below `n`? -/
def containsLowLevelCall (n : Node) : Bool :=
  n.isLowLevelCall || n.children.attach.any fun ⟨c, _⟩ => c.containsLowLevelCall
termination_by sizeOf n
decreasing_by exact sizeOf_lt_of_mem_children (by assumption)

theorem containsLowLevelCall_eq (n : Node) :
    n.containsLowLevelCall = (n.isLowLevelCall || n.children.any containsLowLevelCall) := by
  rw [containsLowLevelCall]
  simp

/-- Is `n` itself an identifier called `name`? -/
def isIdentifierNamed (name : String) : Node → Bool
  | expression (.identifier x _) => x == name
  | _ => false

/-- How many identifiers at or below `n` are called `name`? -/
def countIdentifier (name : String) (n : Node) : Nat :=
  (if n.isIdentifierNamed name then 1 else 0)
    + n.children.attach.foldr (fun ⟨c, _⟩ total => c.countIdentifier name + total) 0
termination_by sizeOf n
decreasing_by exact sizeOf_lt_of_mem_children (by assumption)

theorem countIdentifier_eq (name : String) (n : Node) :
    n.countIdentifier name = (if n.isIdentifierNamed name then 1 else 0)
      + n.children.foldr (fun c total => c.countIdentifier name + total) 0 := by
  rw [countIdentifier]
  simp

end Node

end SolidityLint.Ast
