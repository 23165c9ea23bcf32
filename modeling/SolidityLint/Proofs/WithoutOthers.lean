import Mathlib.Data.List.Basic
import SolidityLint.Proofs.Walk

set_option autoImplicit false

/-! # Trees without uninspected parts

A member of a contract or a statement of a block that no rule inspects is kept in the tree as an
`OtherNode`. `GainsOther` says that one tree is another with one such part more, one constructor for
each place where it may stand.

Trees that differ in such parts have one common form, the tree without them (`withoutOthers`). The
walk of the common form is the walk of the tree, each node in its common form, once uninspected
nodes are left out on both sides (`Node.inspectedWalk_withoutOthers`), so every question below a
node that does not count them has the same answer for both. -/

namespace SolidityLint.Ast

/-! ## One more uninspected part -/

/-- The second statement is the first with one more uninspected statement, at some place among the
    statements of a block at or below it. -/
inductive Statement.GainsOther : Statement → Statement → Prop where
  | block (before after : List Statement) (node : OtherNode) (isUnchecked : Bool) (loc : Location) :
      GainsOther (.block (before ++ after) isUnchecked loc)
        (.block (before ++ .other node :: after) isUnchecked loc)
  | inBlock (before after : List Statement) (isUnchecked : Bool) (loc : Location)
      {s t : Statement} : GainsOther s t →
      GainsOther (.block (before ++ s :: after) isUnchecked loc)
        (.block (before ++ t :: after) isUnchecked loc)
  | ifTrue (condition : Expression) (ifFalse : Option Statement) (loc : Location)
      {s t : Statement} : GainsOther s t →
      GainsOther (.ifElse condition s ifFalse loc) (.ifElse condition t ifFalse loc)
  | ifFalse (condition : Expression) (ifTrue : Statement) (loc : Location)
      {s t : Statement} : GainsOther s t →
      GainsOther (.ifElse condition ifTrue (some s) loc) (.ifElse condition ifTrue (some t) loc)
  | forInit (condition update : Option Expression) (body : Option Statement) (loc : Location)
      {s t : Statement} : GainsOther s t →
      GainsOther (.forLoop (some s) condition update body loc)
        (.forLoop (some t) condition update body loc)
  | forBody (init : Option Statement) (condition update : Option Expression) (loc : Location)
      {s t : Statement} : GainsOther s t →
      GainsOther (.forLoop init condition update (some s) loc)
        (.forLoop init condition update (some t) loc)
  | whileBody (condition : Expression) (loc : Location) {s t : Statement} : GainsOther s t →
      GainsOther (.whileLoop condition s loc) (.whileLoop condition t loc)
  | doBody (condition : Expression) (loc : Location) {s t : Statement} : GainsOther s t →
      GainsOther (.doWhile s condition loc) (.doWhile t condition loc)
  | tryBody (e : Expression) (returns : List VariableDeclaration) (catchBodies : List Statement)
      (loc : Location) {s t : Statement} : GainsOther s t →
      GainsOther (.tryCatch e returns (some s) catchBodies loc)
        (.tryCatch e returns (some t) catchBodies loc)
  | catchBody (e : Expression) (returns : List VariableDeclaration) (body : Option Statement)
      (before after : List Statement) (loc : Location) {s t : Statement} : GainsOther s t →
      GainsOther (.tryCatch e returns body (before ++ s :: after) loc)
        (.tryCatch e returns body (before ++ t :: after) loc)

/-- A body gains what the block with its statements gains. -/
def Block.GainsOther (b c : Block) : Prop :=
  (Statement.block b.statements b.isUnchecked b.loc).GainsOther
    (.block c.statements c.isUnchecked c.loc)

/-- The body of the function gains an uninspected statement. -/
inductive FunctionDefinition.GainsOther : FunctionDefinition → FunctionDefinition → Prop where
  | body (f : FunctionDefinition) {b c : Block} : b.GainsOther c →
      GainsOther { f with body := some b } { f with body := some c }

/-- The body of the modifier gains an uninspected statement. -/
inductive ModifierDefinition.GainsOther : ModifierDefinition → ModifierDefinition → Prop where
  | body (d : ModifierDefinition) {b c : Block} : b.GainsOther c →
      GainsOther { d with body := some b } { d with body := some c }

/-- An uninspected statement more in a member of a contract. -/
inductive Member.GainsOther : Member → Member → Prop where
  | function {f g : FunctionDefinition} : f.GainsOther g → GainsOther (.function f) (.function g)
  | modifier {d e : ModifierDefinition} : d.GainsOther e → GainsOther (.modifier d) (.modifier e)

/-- An uninspected member more, or an uninspected statement more in one of the members. -/
inductive ContractDefinition.GainsOther : ContractDefinition → ContractDefinition → Prop where
  | members (c : ContractDefinition) (before after : List Member) (node : OtherNode) :
      GainsOther { c with members := before ++ after }
        { c with members := before ++ .other node :: after }
  | inMember (c : ContractDefinition) (before after : List Member) {m n : Member} :
      m.GainsOther n →
      GainsOther { c with members := before ++ m :: after }
        { c with members := before ++ n :: after }

/-- An uninspected part more in an item of a file. -/
inductive TopLevelItem.GainsOther : TopLevelItem → TopLevelItem → Prop where
  | contract {c d : ContractDefinition} : c.GainsOther d → GainsOther (.contract c) (.contract d)
  | function {f g : FunctionDefinition} : f.GainsOther g → GainsOther (.function f) (.function g)

/-- **One more uninspected part**: a member of a contract, or a statement of a block at any
    depth. -/
inductive SourceUnit.GainsOther : SourceUnit → SourceUnit → Prop where
  | inItem (before after : List TopLevelItem) (loc : Location) {i j : TopLevelItem} :
      i.GainsOther j → GainsOther ⟨before ++ i :: after, loc⟩ ⟨before ++ j :: after, loc⟩

/-! ## The tree without them -/

/-- Does no rule inspect the statement? -/
def Statement.isOther : Statement → Bool
  | .other _ => true
  | _ => false

/-- Does no rule inspect the member? -/
def Member.isOther : Member → Bool
  | .other _ => true
  | _ => false

mutual

/-- A statement whose blocks hold no uninspected statement. -/
def Statement.withoutOthers : Statement → Statement
  | .block statements isUnchecked loc => .block (keepInspected statements) isUnchecked loc
  | .ifElse condition ifTrue ifFalse loc =>
      .ifElse condition ifTrue.withoutOthers (withoutOthersOption ifFalse) loc
  | .forLoop init condition update body loc =>
      .forLoop (withoutOthersOption init) condition update (withoutOthersOption body) loc
  | .whileLoop condition body loc => .whileLoop condition body.withoutOthers loc
  | .doWhile body condition loc => .doWhile body.withoutOthers condition loc
  | .tryCatch e returns body catchBodies loc =>
      .tryCatch e returns (withoutOthersOption body) (withoutOthersList catchBodies) loc
  | .expression e loc => .expression e loc
  | .variableDeclaration declared initialValue loc => .variableDeclaration declared initialValue loc
  | .returnValue value loc => .returnValue value loc
  | .emitEvent call loc => .emitEvent call loc
  | .revertWith error arguments loc => .revertWith error arguments loc
  | .other node => .other node

/-- A statement that may be missing, in its common form. -/
def Statement.withoutOthersOption : Option Statement → Option Statement
  | some s => some s.withoutOthers
  | none => none

/-- The bodies of clauses, in their common forms; none of them is left out. -/
def Statement.withoutOthersList : List Statement → List Statement
  | [] => []
  | s :: rest => s.withoutOthers :: withoutOthersList rest

/-- The statements of a block, without the uninspected ones. -/
def Statement.keepInspected : List Statement → List Statement
  | [] => []
  | s :: rest =>
      if s.isOther then keepInspected rest else s.withoutOthers :: keepInspected rest

end

namespace Statement

theorem withoutOthersOption_eq_map (o : Option Statement) :
    withoutOthersOption o = o.map withoutOthers := by
  cases o <;> rfl

theorem withoutOthersList_eq_map (ss : List Statement) :
    withoutOthersList ss = ss.map withoutOthers := by
  induction ss with
  | nil => rfl
  | cons s rest ih => rw [withoutOthersList, ih, List.map_cons]

theorem keepInspected_eq (ss : List Statement) :
    keepInspected ss = (ss.filter fun s => !s.isOther).map withoutOthers := by
  induction ss with
  | nil => rfl
  | cons s rest ih =>
    rw [keepInspected, ih]
    cases h : s.isOther with
    | true => simp [h]
    | false => simp [h]

theorem keepInspected_append (before after : List Statement) :
    keepInspected (before ++ after) = keepInspected before ++ keepInspected after := by
  rw [keepInspected_eq, keepInspected_eq, keepInspected_eq, List.filter_append, List.map_append]

@[simp] theorem isOther_withoutOthers (s : Statement) : s.withoutOthers.isOther = s.isOther := by
  cases s <;> rfl

@[simp] theorem loc_withoutOthers (s : Statement) : s.withoutOthers.loc = s.loc := by
  cases s <;> rfl

end Statement

/-- A body without its uninspected statements. -/
def Block.withoutOthers (b : Block) : Block :=
  { b with statements := Statement.keepInspected b.statements }

/-- A function whose body is in its common form. -/
def FunctionDefinition.withoutOthers (f : FunctionDefinition) : FunctionDefinition :=
  { f with body := f.body.map Block.withoutOthers }

/-- A modifier whose body is in its common form. -/
def ModifierDefinition.withoutOthers (d : ModifierDefinition) : ModifierDefinition :=
  { d with body := d.body.map Block.withoutOthers }

/-- A member of a contract in its common form. -/
def Member.withoutOthers : Member → Member
  | .modifier d => .modifier d.withoutOthers
  | .function f => .function f.withoutOthers
  | .struct d => .struct d
  | .enum d => .enum d
  | .stateVariable d => .stateVariable d
  | .event d => .event d
  | .error d => .error d
  | .other n => .other n

/-- A contract without its uninspected members, the others in their common forms. -/
def ContractDefinition.withoutOthers (c : ContractDefinition) : ContractDefinition :=
  { c with members := (c.members.filter fun m => !m.isOther).map Member.withoutOthers }

/-- An item of a file in its common form. -/
def TopLevelItem.withoutOthers : TopLevelItem → TopLevelItem
  | .contract c => .contract c.withoutOthers
  | .function f => .function f.withoutOthers
  | .pragma d => .pragma d
  | .importDirective d => .importDirective d
  | .event d => .event d
  | .error d => .error d
  | .struct d => .struct d
  | .enum d => .enum d
  | .stateVariable d => .stateVariable d
  | .other n => .other n

/-- A source file whose contracts and blocks hold no uninspected part. -/
def SourceUnit.withoutOthers (u : SourceUnit) : SourceUnit :=
  { u with items := u.items.map TopLevelItem.withoutOthers }

/-! ## One more part leaves the common form as it is -/

theorem Statement.GainsOther.withoutOthers_eq {s t : Statement} (h : s.GainsOther t) :
    t.withoutOthers = s.withoutOthers := by
  induction h with
  | block before after => simp [Statement.withoutOthers, keepInspected_eq, isOther]
  | inBlock before after isUnchecked loc h ih =>
    have hother := congrArg Statement.isOther ih
    rw [isOther_withoutOthers, isOther_withoutOthers] at hother
    rename_i s t
    have hfilter : keepInspected (t :: after) = keepInspected (s :: after) := by
      rw [keepInspected, keepInspected, hother, ih]
    rw [Statement.withoutOthers, Statement.withoutOthers, keepInspected_append,
      keepInspected_append, hfilter]
  | ifTrue condition ifFalse loc _ ih => simp [Statement.withoutOthers, ih]
  | ifFalse condition ifTrue loc _ ih => simp [Statement.withoutOthers, withoutOthersOption, ih]
  | forInit condition update body loc _ ih =>
    simp [Statement.withoutOthers, withoutOthersOption, ih]
  | forBody init condition update loc _ ih =>
    simp [Statement.withoutOthers, withoutOthersOption, ih]
  | whileBody condition loc _ ih => simp [Statement.withoutOthers, ih]
  | doBody condition loc _ ih => simp [Statement.withoutOthers, ih]
  | tryBody e returns catchBodies loc _ ih =>
    simp [Statement.withoutOthers, withoutOthersOption, ih]
  | catchBody e returns body before after loc _ ih =>
    simp [Statement.withoutOthers, withoutOthersList_eq_map, ih]

theorem Block.GainsOther.withoutOthers_eq {b c : Block} (h : b.GainsOther c) :
    c.withoutOthers = b.withoutOthers := by
  obtain ⟨hstatements, hunchecked, hloc⟩ := Statement.block.inj
    (Statement.GainsOther.withoutOthers_eq h)
  simp [Block.withoutOthers, hstatements, hunchecked, hloc]

theorem FunctionDefinition.GainsOther.withoutOthers_eq {f g : FunctionDefinition}
    (h : f.GainsOther g) : g.withoutOthers = f.withoutOthers := by
  cases h with
  | body f h => simp [FunctionDefinition.withoutOthers, h.withoutOthers_eq]

theorem ModifierDefinition.GainsOther.withoutOthers_eq {d e : ModifierDefinition}
    (h : d.GainsOther e) : e.withoutOthers = d.withoutOthers := by
  cases h with
  | body d h => simp [ModifierDefinition.withoutOthers, h.withoutOthers_eq]

theorem Member.GainsOther.withoutOthers_eq {m n : Member} (h : m.GainsOther n) :
    n.withoutOthers = m.withoutOthers := by
  cases h with
  | function h => simp [Member.withoutOthers, h.withoutOthers_eq]
  | modifier h => simp [Member.withoutOthers, h.withoutOthers_eq]

theorem ContractDefinition.GainsOther.withoutOthers_eq {c d : ContractDefinition}
    (h : c.GainsOther d) : d.withoutOthers = c.withoutOthers := by
  cases h with
  | members c before after node => simp [ContractDefinition.withoutOthers, Member.isOther]
  | inMember c before after h =>
    have hm := h.withoutOthers_eq
    cases h <;> simp [ContractDefinition.withoutOthers, Member.isOther, hm]

theorem TopLevelItem.GainsOther.withoutOthers_eq {i j : TopLevelItem} (h : i.GainsOther j) :
    j.withoutOthers = i.withoutOthers := by
  cases h with
  | contract h => simp [TopLevelItem.withoutOthers, h.withoutOthers_eq]
  | function h => simp [TopLevelItem.withoutOthers, h.withoutOthers_eq]

theorem SourceUnit.GainsOther.withoutOthers_eq {u v : SourceUnit} (h : u.GainsOther v) :
    v.withoutOthers = u.withoutOthers := by
  cases h with
  | inItem before after loc h => simp [SourceUnit.withoutOthers, h.withoutOthers_eq]

/-! ## The walk without them -/

namespace Node

/-- Is `n` an uninspected member, item or statement? -/
def isOther : Node → Bool
  | other _ => true
  | statement s => s.isOther
  | _ => false

/-- A node in its common form. -/
def withoutOthers : Node → Node
  | sourceUnit u => sourceUnit u.withoutOthers
  | contract c => contract c.withoutOthers
  | modifier d => modifier d.withoutOthers
  | function f => function f.withoutOthers
  | body b => body b.withoutOthers
  | statement s => statement s.withoutOthers
  | n => n

/-- The nodes among `nodes` that may be inspected. -/
def inspected (nodes : List Node) : List Node :=
  nodes.filter fun n => !n.isOther

@[simp] theorem isOther_withoutOthers (n : Node) : n.withoutOthers.isOther = n.isOther := by
  cases n with
  | statement s => exact s.isOther_withoutOthers
  | _ => rfl

theorem children_of_isOther {n : Node} (h : n.isOther = true) : n.children = [] := by
  cases n with
  | other => rfl
  | statement s =>
    cases s with
    | other => rfl
    | _ => exact absurd h (by simp [isOther, Statement.isOther])
  | _ => exact absurd h (by simp [isOther])

end Node

theorem Member.toNode_withoutOthers (m : Member) :
    m.withoutOthers.toNode = m.toNode.withoutOthers := by
  cases m <;> rfl

theorem Member.isOther_toNode (m : Member) : m.toNode.isOther = m.isOther := by
  cases m <;> rfl

theorem TopLevelItem.toNode_withoutOthers (i : TopLevelItem) :
    i.withoutOthers.toNode = i.toNode.withoutOthers := by
  cases i <;> rfl

namespace Node

theorem inspected_map_withoutOthers (nodes : List Node) :
    inspected (nodes.map withoutOthers) = (inspected nodes).map withoutOthers := by
  unfold inspected
  rw [List.filter_map]
  simp [Function.comp_def]

theorem inspected_append (before after : List Node) :
    inspected (before ++ after) = inspected before ++ inspected after :=
  List.filter_append ..

theorem inspected_inspected (nodes : List Node) :
    inspected (inspected nodes) = inspected nodes := by
  simp [inspected]

end Node

section Children

attribute [local simp] Option.toList_map Statement.withoutOthersOption_eq_map
  Statement.withoutOthersList_eq_map Function.comp_def

theorem Node.map_statement_keepInspected (statements : List Statement) :
    (Statement.keepInspected statements).map Node.statement
      = (inspected (statements.map Node.statement)).map withoutOthers := by
  rw [Statement.keepInspected_eq, inspected, List.filter_map, List.map_map, List.map_map]
  rfl

/-- Directly below a statement either nothing is left out, or all that is uninspected is. -/
theorem Statement.children_withoutOthers (s : Statement) :
    s.withoutOthers.children = s.children.map Node.withoutOthers
      ∨ s.withoutOthers.children = (Node.inspected s.children).map Node.withoutOthers := by
  cases s with
  | block statements => exact .inr (Node.map_statement_keepInspected statements)
  | _ => left; simp [withoutOthers, children, Node.withoutOthers]

theorem Node.children_withoutOthers (n : Node) :
    n.withoutOthers.children = n.children.map withoutOthers
      ∨ n.withoutOthers.children = (inspected n.children).map withoutOthers := by
  cases n with
  | sourceUnit u =>
    left
    simp [withoutOthers, children, SourceUnit.withoutOthers, TopLevelItem.toNode_withoutOthers]
  | contract c =>
    right
    have hbases : inspected (c.bases.map inheritance) = c.bases.map inheritance :=
      List.filter_eq_self.2 (by simp [isOther])
    have hmembers : inspected (c.members.map Member.toNode)
        = (c.members.filter fun m => !m.isOther).map Member.toNode := by
      simp [inspected, List.filter_map, Member.isOther_toNode]
    show c.bases.map inheritance ++ (List.map _ _).map Member.toNode
      = (inspected (_ ++ _)).map withoutOthers
    rw [inspected_append, hbases, hmembers]
    simp [withoutOthers, Member.toNode_withoutOthers]
  | modifier d => left; simp [withoutOthers, children, ModifierDefinition.withoutOthers]
  | function f => left; simp [withoutOthers, children, FunctionDefinition.withoutOthers]
  | body b => exact .inr (map_statement_keepInspected b.statements)
  | statement s => exact s.children_withoutOthers
  | _ => left; simp [withoutOthers, children]

end Children

namespace Node

theorem inspected_children_withoutOthers (n : Node) :
    inspected n.withoutOthers.children = (inspected n.children).map withoutOthers := by
  rcases n.children_withoutOthers with h | h
  · rw [h, inspected_map_withoutOthers]
  · rw [h, inspected_map_withoutOthers, inspected_inspected]

/-- The nodes of the walk that may be inspected. -/
def inspectedWalk (n : Node) : List Node :=
  inspected n.walk

theorem inspectedWalk_of_isOther {n : Node} (h : n.isOther = true) : n.inspectedWalk = [] := by
  rw [inspectedWalk, walk_eq, children_of_isOther h]
  simp [inspected, h]

/-- Below a node it is enough to look at the children that may be inspected. -/
theorem flatMap_inspectedWalk_inspected (nodes : List Node) :
    (inspected nodes).flatMap inspectedWalk = nodes.flatMap inspectedWalk := by
  induction nodes with
  | nil => rfl
  | cons n rest ih =>
    cases h : n.isOther with
    | true =>
      rw [List.flatMap_cons, inspectedWalk_of_isOther h, List.nil_append, ← ih]
      simp [inspected, h]
    | false =>
      rw [List.flatMap_cons, ← ih]
      simp [inspected, h]

theorem inspectedWalk_eq (n : Node) :
    n.inspectedWalk = inspected [n] ++ (inspected n.children).flatMap inspectedWalk := by
  rw [flatMap_inspectedWalk_inspected, inspectedWalk, walk_eq]
  unfold inspected
  rw [← List.singleton_append, List.filter_append, List.filter_flatMap]
  rfl

/-- **The walk of the common form** is the walk of the node, each node in its common form, as far as
    nodes may be inspected. -/
theorem inspectedWalk_withoutOthers (n : Node) :
    n.withoutOthers.inspectedWalk = n.inspectedWalk.map withoutOthers := by
  induction n using childInduction with
  | step n ih =>
    have hself : inspected [n.withoutOthers] = (inspected [n]).map withoutOthers :=
      inspected_map_withoutOthers [n]
    rw [inspectedWalk_eq, inspectedWalk_eq n, hself, inspected_children_withoutOthers,
      List.flatMap_map, List.map_append, List.map_flatMap]
    congr 1
    exact List.flatMap_congr fun c hc => ih c (List.mem_of_mem_filter hc)

/-! ### Queries below a node -/

theorem containsLowLevelCall_eq_any_inspectedWalk (n : Node) :
    n.containsLowLevelCall = n.inspectedWalk.any isLowLevelCall := by
  have hcall : (fun m : Node => !m.isOther && m.isLowLevelCall) = isLowLevelCall := by
    funext m
    cases m with
    | statement s => exact Bool.and_false _
    | _ => rfl
  rw [containsLowLevelCall_eq_any_walk, inspectedWalk, inspected, List.any_filter, hcall]

theorem countIdentifier_eq_countP_inspectedWalk (name : String) (n : Node) :
    n.countIdentifier name = n.inspectedWalk.countP (isIdentifierNamed name) := by
  have hnamed : (fun m : Node => m.isIdentifierNamed name && !m.isOther)
      = isIdentifierNamed name := by
    funext m
    cases m with
    | expression e => exact Bool.and_true _
    | _ => rfl
  rw [countIdentifier_eq_countP_walk, inspectedWalk, inspected, List.countP_filter, hnamed]

theorem containsLowLevelCall_withoutOthers (n : Node) :
    n.withoutOthers.containsLowLevelCall = n.containsLowLevelCall := by
  have hcall : isLowLevelCall ∘ withoutOthers = isLowLevelCall := by
    funext m
    cases m <;> rfl
  rw [containsLowLevelCall_eq_any_inspectedWalk, inspectedWalk_withoutOthers, List.any_map, hcall,
    ← containsLowLevelCall_eq_any_inspectedWalk]

theorem countIdentifier_withoutOthers (name : String) (n : Node) :
    n.withoutOthers.countIdentifier name = n.countIdentifier name := by
  have hnamed : isIdentifierNamed name ∘ withoutOthers = isIdentifierNamed name := by
    funext m
    cases m <;> rfl
  rw [countIdentifier_eq_countP_inspectedWalk, inspectedWalk_withoutOthers, List.countP_map, hnamed,
    ← countIdentifier_eq_countP_inspectedWalk]

theorem containsLowLevelCall_of_isOther (n : Node) (h : n.isOther = true) :
    n.containsLowLevelCall = false := by
  rw [containsLowLevelCall_eq_any_inspectedWalk, inspectedWalk_of_isOther h]
  rfl

end Node

end SolidityLint.Ast
