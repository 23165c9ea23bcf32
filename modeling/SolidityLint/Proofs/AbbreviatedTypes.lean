import SolidityLint.Grammar.SourceUnit
import SolidityLint.Proofs.Declarations
import SolidityLint.Proofs.LoweredStatement
import SolidityLint.Proofs.Provenance

set_option autoImplicit false

/-! # Which abbreviated types are reported

The rule against the abbreviation `uint` looks at each declaration that the walk meets. The walk of
a lowered file meets the declarations that are seen, in order (`Node.declaredTypes_sourceUnit`). So
the rule reports those among them whose type is spelled `uint`, and these are all that are written
exactly when no unseen declaration has that type (`SourceUnit.abbreviations_reported_iff`). The
parameter of a `catch` clause is an unseen declaration. -/

namespace SolidityLint

open Ast Engine
open ParseTree (Expr Stmt Fragment CatchClause)

namespace Ast

/-! ## Declarations along the walk -/

namespace Node

/-- The type of a node that is a declaration. -/
def declaredType? : Node → Option TypeName
  | declaration v => some v.typeName
  | _ => none

/-- The types of the declarations at and below `n`, in the order of the walk. -/
def declaredTypes (n : Node) : List TypeName := n.walk.filterMap declaredType?

theorem declaredTypes_eq (n : Node) :
    n.declaredTypes = n.declaredType?.toList ++ n.children.flatMap declaredTypes :=
  n.filterMap_walk_eq declaredType?

theorem declaredTypes_declaration (v : VariableDeclaration) :
    (declaration v).declaredTypes = [v.typeName] := by
  rw [declaredTypes_eq]
  rfl

/-- Is this a directive, an enum or a part that no rule inspects? -/
def isPlain : Node → Bool
  | pragma _ | importDirective _ | enum _ | other _ => true
  | _ => false

theorem flatMap_plain {n : Node} (h : n.isPlain = true) : [n].flatMap declaredTypes = [] := by
  rw [List.flatMap_singleton, declaredTypes_eq]
  cases n with
  | pragma | importDirective | enum | other => rfl
  | _ => cases h

theorem declaredTypes_expression (e : Expression) : (expression e).declaredTypes = [] :=
  filterMap_walk_expression declaredType? (fun _ => rfl) e

theorem flatMap_declarations (vs : List VariableDeclaration) :
    (vs.map declaration).flatMap declaredTypes = vs.map VariableDeclaration.typeName := by
  rw [List.flatMap_map, List.map_eq_flatMap]
  exact List.flatMap_congr fun v _ => declaredTypes_declaration v

theorem flatMap_expressions (es : List Expression) :
    (es.map expression).flatMap declaredTypes = [] := by
  rw [List.flatMap_map, List.flatMap_eq_nil_iff]
  exact fun e _ => declaredTypes_expression e

end Node

/-! ## Lowered statements -/

theorem VariableDeclaration.map_typeName_ofParameters (src : Source)
    (parameters : ParseTree.ParameterList) :
    (VariableDeclaration.ofParameters src parameters).map typeName
      = (ParseTree.slotTypes parameters).map (.ofExpr src) := by
  unfold ofParameters ParseTree.slotTypes
  rw [List.map_map, List.map_map]
  rfl

theorem map_typeName_declaredSlots (src : Source) (slots : ParseTree.ParameterList) :
    ((slots.map (declaredSlot src)).filterMap id).map VariableDeclaration.typeName
      = (ParseTree.slotTypes (slots.filter declaresName)).map (.ofExpr src) := by
  unfold ParseTree.slotTypes
  rw [List.filterMap_map, List.map_filterMap, List.map_map, List.map_filterMap,
    List.filterMap_filter]
  refine List.filterMap_congr fun slot _ => ?_
  cases slot with
  | none => rfl
  | some p =>
    obtain ⟨type, dataLocation, name, span⟩ := p
    cases name <;> rfl

namespace Statement

theorem flatMap_children_ofExpr (src : Source) (e : Expr) (span : ParseTree.Span) :
    (ofExpr src e span).children.flatMap Node.declaredTypes
      = (ParseTree.slotTypes e.declaredSlots).map (.ofExpr src) := by
  fun_cases ofExpr src e span with
  | case1 slots listSpan right assignSpan hnames =>
    rw [children, List.flatMap_append, Node.flatMap_declarations, Node.flatMap_expressions,
      map_typeName_declaredSlots, List.append_nil]
    rfl
  | case2 slots listSpan right assignSpan hnames =>
    have hnone : slots.filter declaresName = [] := by
      simpa [List.filter_eq_nil_iff] using hnames
    rw [children, Expr.declaredSlots, hnone]
    exact Node.flatMap_expressions [_]
  | case3 =>
    have hnone : e.declaredSlots = [] := by
      unfold Expr.declaredSlots
      grind
    rw [children, hnone]
    exact Node.flatMap_expressions [_]

section Children

-- The nodes that a list of parts gives, and what they declare.
attribute [local simp] children Node.flatMap_declarations Node.flatMap_expressions
  Node.declaredTypes_expression Node.declaredTypes_declaration Stmt.keptTypes Stmt.nested
  Stmt.contents Stmt.parts Fragment.stmt? ParseTree.parameterTypes lower List.filterMap_map
  List.filterMap_cons List.filterMap_flatMap Function.comp_def VariableDeclaration.declare
  VariableDeclaration.map_typeName_ofParameters

-- Declarations and expressions first, and statements as what is left.
attribute [local simp low] List.flatMap_map

/-- One step of the walk, as far as declarations go. -/
theorem flatMap_children_lower (src : Source) (s : Stmt) :
    (lower src s).children.flatMap Node.declaredTypes
      = s.keptTypes.map (.ofExpr src)
        ++ s.nested.flatMap fun t => (Node.statement (lower src t)).declaredTypes := by
  cases s with
  | expression e span =>
    rw [lower, flatMap_children_ofExpr]
    exact (List.append_nil _).symm
  | block statements isUnchecked span => simp [lowerList_eq_map]
  | ifElse condition ifTrue ifFalse span => simp [toList_lowerOption]
  | forLoop init condition update body span => simp [toList_lowerOption]
  | revertWith error arguments span => cases error <;> simp [ofRevert]
  | tryCatch e returns clauses span =>
    have hbodies : (clauses.flatMap fun c => [c.body]) = clauses.map CatchClause.body :=
      List.map_eq_flatMap.symm
    cases returns with
    | none => simp [lowerClauses_eq_map, hbodies]
    | some r => simp [lowerClauses_eq_map, hbodies]
  | _ => simp

end Children

end Statement

namespace Node

/-- The walk of a lowered statement meets the declarations that are seen. -/
theorem declaredTypes_lower (src : Source) (s : Stmt) :
    (statement (.lower src s)).declaredTypes = s.seenTypes.map (.ofExpr src) := by
  induction s using Stmt.nestedInduction with
  | step s ih =>
    rw [declaredTypes_eq, children, Statement.flatMap_children_lower, Stmt.seenTypes_eq,
      List.map_append, List.map_flatMap, List.flatMap_congr ih]
    rfl

theorem declaredTypes_body (src : Source) (s : Stmt) :
    (body (.lower src s)).declaredTypes = s.seenTypes.map (.ofExpr src) := by
  rw [declaredTypes_eq, children, Block.statements_lower, List.map_map, List.flatMap_map,
    ← s.flatMap_seenTypes_bodyStatements, List.map_flatMap]
  exact List.flatMap_congr fun t _ => declaredTypes_lower src t

theorem flatMap_bodies (src : Source) (b : Option Stmt) :
    ((b.map (Block.lower src)).toList.map body).flatMap declaredTypes
      = (b.toList.flatMap Stmt.seenTypes).map (.ofExpr src) := by
  cases b with
  | none => rfl
  | some s =>
    show [body (.lower src s)].flatMap declaredTypes = ([s].flatMap Stmt.seenTypes).map _
    rw [List.flatMap_singleton, List.flatMap_singleton, declaredTypes_body]

end Node

/-! ## Lowered definitions -/

/-- Attributes do not change the type of a variable. -/
theorem VariableDeclaration.typeName_foldl_withAttribute
    (attributes : List ParseTree.VariableAttribute) (v : VariableDeclaration) :
    (attributes.foldl withAttribute v).typeName = v.typeName := by
  induction attributes generalizing v with
  | nil => rfl
  | cons given rest ih =>
    rw [List.foldl_cons, ih]
    cases given <;> rfl

namespace Node

variable (src : Source)

theorem declaredTypes_struct (d : ParseTree.StructDefinition) :
    (struct (.lower src d)).declaredTypes
      = (d.fields.map ParseTree.Declaration.type).map (.ofExpr src) := by
  rw [declaredTypes_eq, children, flatMap_declarations]
  show (d.fields.map _).map _ = (d.fields.map _).map _
  rw [List.map_map, List.map_map]
  rfl

theorem declaredTypes_event (d : ParseTree.EventDefinition) :
    (event (.lower src d)).declaredTypes
      = (d.parameters.map ParseTree.EventParameter.type).map (.ofExpr src) := by
  rw [declaredTypes_eq, children, flatMap_declarations]
  show (d.parameters.map _).map _ = (d.parameters.map _).map _
  rw [List.map_map, List.map_map]
  rfl

theorem declaredTypes_error (d : ParseTree.ErrorDefinition) :
    (error (.lower src d)).declaredTypes
      = (d.parameters.map ParseTree.ErrorParameter.type).map (.ofExpr src) := by
  rw [declaredTypes_eq, children, flatMap_declarations]
  show (d.parameters.map _).map _ = (d.parameters.map _).map _
  rw [List.map_map, List.map_map]
  rfl

theorem declaredTypes_stateVariable (isStateVariable : Bool) (d : ParseTree.VariableDefinition) :
    (stateVariable (.lower src isStateVariable d)).declaredTypes = [.ofExpr src d.type] := by
  rw [declaredTypes_eq, children, List.flatMap_append, flatMap_declarations, flatMap_expressions]
  show [(d.attributes.foldl VariableDeclaration.withAttribute _).typeName] = _
  rw [VariableDeclaration.typeName_foldl_withAttribute]
  rfl

theorem declaredTypes_function (isFree : Bool) (d : ParseTree.FunctionDefinition) :
    (function (.lower src isFree d)).declaredTypes
      = (ParseTree.slotTypes d.parameters ++ ParseTree.slotTypes d.returns
          ++ d.body.toList.flatMap Stmt.seenTypes).map (.ofExpr src) := by
  rw [declaredTypes_eq, children, List.flatMap_append, List.flatMap_append, flatMap_declarations,
    flatMap_declarations]
  simp only [FunctionDefinition.lower, flatMap_bodies, List.map_append,
    VariableDeclaration.map_typeName_ofParameters]
  rfl

theorem declaredTypes_modifier (d : ParseTree.FunctionDefinition) :
    (modifier (.lower src d)).declaredTypes
      = (ParseTree.slotTypes d.parameters
          ++ d.body.toList.flatMap Stmt.seenTypes).map (.ofExpr src) := by
  rw [declaredTypes_eq, children, List.flatMap_append, flatMap_declarations]
  simp only [ModifierDefinition.lower, flatMap_bodies, List.map_append,
    VariableDeclaration.map_typeName_ofParameters]
  rfl

section Members

-- What each kind of definition declares, on both sides.
attribute [local simp] declaredTypes_struct declaredTypes_event declaredTypes_error
  declaredTypes_stateVariable declaredTypes_function declaredTypes_modifier Member.toNode
  TopLevelItem.toNode ParseTree.Member.seen ParseTree.Member.keptTypes ParseTree.Member.ownTypes
  ParseTree.Member.body? ParseTree.FunctionDefinition.losesReturns

/-- A definition in a contract gives at most one node, with the declarations that are seen. -/
theorem declaredTypes_member (m : ParseTree.Member) :
    ((Member.lower? src m).toList.map Member.toNode).flatMap declaredTypes
      = (m.seen true).map (.ofExpr src) := by
  cases m with
  | function d =>
    by_cases hkind : d.kind = .modifier
    · simp [Member.lower?, hkind]
    · simp [Member.lower?, hkind]
  | enum | typeDefinition | annotated | usingFor => exact flatMap_plain rfl
  | _ => simp [Member.lower?]

theorem declaredTypes_contract (d : ParseTree.ContractDefinition) :
    (contract (.lower src d)).declaredTypes = d.seen.map (.ofExpr src) := by
  have hbases : ((d.bases.map (InheritanceSpecifier.lower src)).map inheritance).flatMap
      declaredTypes = [] := by
    rw [List.flatMap_map, List.flatMap_eq_nil_iff]
    intro b _
    rw [declaredTypes_eq, children, flatMap_expressions]
    rfl
  have hmembers : ((d.members.filterMap (Member.lower? src)).map Member.toNode).flatMap
      declaredTypes = d.seen.map (.ofExpr src) := by
    rw [List.filterMap_eq_flatMap_toList, List.map_flatMap, List.flatMap_assoc,
      ParseTree.ContractDefinition.seen, List.map_flatMap]
    exact List.flatMap_congr fun m _ => declaredTypes_member src m
  rw [declaredTypes_eq, children, List.flatMap_append]
  simp only [ContractDefinition.lower, hbases, hmembers]
  rfl

/-- An item gives at most one node, with the declarations that are seen. -/
theorem declaredTypes_item (i : ParseTree.Item) :
    ((TopLevelItem.lower? src i).toList.map TopLevelItem.toNode).flatMap declaredTypes
      = i.seen.map (.ofExpr src) := by
  cases i with
  | contract d => simp [TopLevelItem.lower?, declaredTypes_contract, ParseTree.Item.seen]
  | member m =>
    cases m with
    | enum | typeDefinition | annotated | usingFor => exact flatMap_plain rfl
    | _ => simp [TopLevelItem.lower?, ParseTree.Item.seen]
  | pragma span => exact flatMap_plain rfl
  | importDirective span => exact flatMap_plain rfl

/-- **The walk of a lowered file** meets the declarations that are seen, in order. -/
theorem declaredTypes_sourceUnit (u : ParseTree.SourceUnit) :
    (sourceUnit (.lower src u)).declaredTypes = u.seen.map (.ofExpr src) := by
  rw [declaredTypes_eq, children]
  simp only [SourceUnit.lower]
  rw [List.filterMap_eq_flatMap_toList, List.map_flatMap, List.flatMap_assoc,
    List.flatMap_congr fun i _ => declaredTypes_item src i, ParseTree.SourceUnit.seen,
    List.map_flatMap]
  rfl

end Members

end Node

end Ast

/-! ## Findings of the rule -/

namespace Engine

/-- Only a declaration calls for the rule. -/
theorem ofNode_typeAbbreviation (n : Node) :
    (Inspection.ofNode n).filter (Inspection.mayReport Rule.typeAbbreviation.id)
      = match n with
        | .declaration v => [.typeAbbreviation v]
        | _ => [] := by
  cases n with
  | function f =>
    show (Inspection.ofFunction f).filter _ = _
    unfold Inspection.ofFunction
    split <;> rfl
  | stateVariable d =>
    have hvariable : ∀ v, List.filter (Inspection.mayReport Rule.typeAbbreviation.id)
        [.stateVariableUnderscore v, .stateVariableName v] = [] := fun _ => rfl
    show List.filter _ (d.declared.flatMap _) = []
    rw [List.filter_flatMap]
    simp [hvariable]
  | statement s =>
    cases s with
    | forLoop init condition update body loc => cases update <;> rfl
    | _ => rfl
  | expression e => cases e <;> rfl
  | _ => rfl

/-- How often a run reports an abbreviated type. -/
def abbreviationCount (options : Options) (unit : SourceUnit) : Nat :=
  (run options unit).countP fun d => d.ruleId == Rule.typeAbbreviation.id

/-- At each node, one finding for a declaration of type `uint`. -/
theorem length_filter_emitted (options : Options) (registry : Registry) (n : Node) :
    ((emitted options registry n).filter fun d => d.ruleId == Rule.typeAbbreviation.id).length
      = n.declaredType?.toList.countP fun t => t.name == "uint" := by
  rw [emitted_eq_findings, filter_findings, ofNode_typeAbbreviation]
  cases n with
  | declaration v =>
    show (Inspection.runFor Rule.typeAbbreviation.id _ _ (.typeAbbreviation v) ++ []).length = _
    rw [List.append_nil, Inspection.runFor_eq_run rfl]
    show (Check.typeAbbreviation v).length = [v.typeName].countP _
    rw [Check.typeAbbreviation_eq]
    by_cases hname : v.typeName.name = "uint"
    · simp [hname]
    · simp [hname]
  | _ => rfl

theorem abbreviationCount_eq (options : Options) (unit : SourceUnit) :
    abbreviationCount options unit
      = (Node.sourceUnit unit).declaredTypes.countP fun t => t.name == "uint" := by
  have hwalk : (Node.sourceUnit unit).walk.zipIdx.map Prod.fst = (Node.sourceUnit unit).walk :=
    List.zipIdx_map_fst ..
  unfold abbreviationCount Node.declaredTypes
  rw [List.countP_eq_length_filter, filter_run, List.length_flatMap,
    List.filterMap_eq_flatMap_toList, List.countP_flatMap]
  conv_rhs => rw [← hwalk, List.map_map]
  refine congrArg List.sum (List.map_congr_left fun p _ => ?_)
  exact length_filter_emitted options _ p.1

end Engine

/-! ## What is declared and what is reported -/

namespace ParseTree.SourceUnit

/-- Is a type written as `uint`? -/
def isAbbreviated (src : Source) (type : Expr) : Bool := src.spelling type.span == "uint"

/-- **An abbreviated type is reported once for each declaration that is seen.** The declarations
    that are seen and those that are unseen are all that are written, so the reports are as many as
    the declarations of type `uint` exactly when no unseen declaration has that type, and else they
    are fewer by the number of these. -/
theorem abbreviations_reported_iff (src : Source) (options : Options) (u : SourceUnit) :
    abbreviationCount options (.lower src u) = u.seen.countP (isAbbreviated src)
    ∧ u.declared.Perm (u.seen ++ u.unseen)
    ∧ abbreviationCount options (.lower src u) + u.unseen.countP (isAbbreviated src)
      = u.declared.countP (isAbbreviated src)
    ∧ (abbreviationCount options (.lower src u) = u.declared.countP (isAbbreviated src)
      ↔ ∀ type ∈ u.unseen, src.spelling type.span ≠ "uint") := by
  have hcount : abbreviationCount options (.lower src u) = u.seen.countP (isAbbreviated src) := by
    rw [abbreviationCount_eq, Node.declaredTypes_sourceUnit, List.countP_map]
    rfl
  have htotal : abbreviationCount options (.lower src u) + u.unseen.countP (isAbbreviated src)
      = u.declared.countP (isAbbreviated src) := by
    rw [hcount, ← List.countP_append, u.declared_splits.countP_eq]
  refine ⟨hcount, u.declared_splits, htotal, ?_⟩
  rw [← htotal]
  have hnone : u.unseen.countP (isAbbreviated src) = 0
      ↔ ∀ type ∈ u.unseen, src.spelling type.span ≠ "uint" := by
    simp [List.countP_eq_zero, isAbbreviated]
  rw [← hnone]
  omega

/-- A source with a `catch` clause that has a parameter of type `uint`. -/
def catchPanicSource : String :=
  "contract Vault\x7bfunction probe()external\x7btry this.ping()returns(bool ok)\x7b\x7d"
    ++ "catch Panic(uint code)\x7b\x7d\x7d\x7d"

/-- One declaration of type `uint` is written in it, the parameter of the clause; it is unseen, and
    the run reports none. -/
theorem catchPanic_not_reported :
    (ParseTree.ofSource catchPanicSource).toOption.map (fun u =>
        (u.declared.countP (isAbbreviated (.ofString catchPanicSource)),
          u.unseen.countP (isAbbreviated (.ofString catchPanicSource)),
          abbreviationCount ⟨false⟩ (.lower (.ofString catchPanicSource) u)))
      = some (1, 1, 0) := by
  decide +kernel

end ParseTree.SourceUnit

end SolidityLint
