import SolidityLint.Ast
import SolidityLint.Json

set_option autoImplicit false

/-! # The JSON form of the syntax tree

Each record becomes an object with its fields in order. A value of a type with several shapes
carries the name of its shape in a first member `type`; a missing part is `null`. The location of a
record is always its last member. -/

namespace SolidityLint

/-- A position as an object of line and column. -/
def Position.toJson (p : Position) : Json :=
  .obj [("line", .num p.line), ("column", .num p.column)]

/-- A location as an object with both ends. -/
def Location.toJson (l : Location) : Json :=
  .obj [("start", l.start.toJson), ("end", l.stop.toJson)]

namespace Ast

/-- The word for a kind of contract. -/
def ContractKind.word : ContractKind → String
  | contract => "contract"
  | abstract => "abstract"
  | interface => "interface"
  | library => "library"

/-- The word for a visibility, `default` where none is written. -/
def Visibility.word : Visibility → String
  | unspecified => "default"
  | external => "external"
  | pub => "public"
  | internal => "internal"
  | priv => "private"

/-- The word for a data location. -/
def DataLocation.word : DataLocation → String
  | memory => "memory"
  | storage => "storage"
  | calldata => "calldata"

/-- The word for a kind of type. -/
def TypeKind.word : TypeKind → String
  | elementary => "Elementary"
  | userDefined => "UserDefined"
  | array => "Array"
  | mapping => "Mapping"
  | function => "Function"

/-- The word for a kind of function. -/
def FunctionKind.word : FunctionKind → String
  | function => "function"
  | constructor => "constructor"
  | fallback => "fallback"
  | receive => "receive"

/-- The word for a kind of literal. -/
def LiteralKind.word : LiteralKind → String
  | number => "Number"
  | string => "String"
  | bool => "Bool"
  | hex => "Hex"
  | address => "Address"

/-- An object that says which shape its members belong to. -/
def tagged (shape : String) (members : List (String × Json)) : Json :=
  .obj (("type", .str shape) :: members)

/-! ## Leaves -/

/-- The members of a type, which is tagged only where it stands as an expression. -/
def TypeName.members (t : TypeName) : List (String × Json) :=
  [("name", .str t.name), ("kind", .str t.kind.word), ("loc", t.loc.toJson)]

/-- A type as an object without a tag. -/
def TypeName.toJson (t : TypeName) : Json :=
  .obj t.members

/-- The members of a part that no rule inspects. -/
def OtherNode.members (n : OtherNode) : List (String × Json) :=
  [("kind", .str n.kind), ("loc", n.loc.toJson)]

/-- A variable, a parameter or a field, always with all its members. -/
def VariableDeclaration.toJson (v : VariableDeclaration) : Json :=
  .obj [("name", .ofOptionalText v.name),
    ("type_name", v.typeName.toJson),
    ("visibility", .str v.visibility.word),
    ("storage_location", .ofOptionalText (v.dataLocation.map DataLocation.word)),
    ("is_state_var", .bool v.isStateVariable),
    ("is_declared_const", .bool v.isConstant),
    ("is_immutable", .bool v.isImmutable),
    ("is_indexed", .bool v.isIndexed),
    ("loc", v.loc.toJson)]

/-! ## Expressions -/

mutual

/-- An expression, tagged with its shape. -/
def Expression.toJson : Expression → Json
  | .identifier name loc => tagged "Identifier" [("name", .str name), ("loc", loc.toJson)]
  | .memberAccess base member loc => tagged "MemberAccess"
      [("expression", base.toJson), ("member_name", .str member), ("loc", loc.toJson)]
  | .indexAccess base index loc => tagged "IndexAccess"
      [("base", base.toJson), ("index", Expression.optionToJson index), ("loc", loc.toJson)]
  | .functionCall callee arguments names loc => tagged "FunctionCall"
      [("expression", callee.toJson), ("arguments", .arr (Expression.listToJson arguments)),
        ("names", .ofTexts names), ("loc", loc.toJson)]
  | .callOptions callee names values loc => tagged "NameValueExpression"
      [("expression", callee.toJson), ("names", .ofTexts names),
        ("values", .arr (Expression.listToJson values)), ("loc", loc.toJson)]
  | .binaryOperation operator left right loc => tagged "BinaryOperation"
      [("operator", .str operator), ("left", left.toJson), ("right", right.toJson),
        ("loc", loc.toJson)]
  | .unaryOperation operator operand leading loc => tagged "UnaryOperation"
      [("operator", .str operator), ("sub_expression", operand.toJson),
        ("is_prefix", .bool leading), ("loc", loc.toJson)]
  | .conditional condition ifTrue ifFalse loc => tagged "Conditional"
      [("condition", condition.toJson), ("true_expression", ifTrue.toJson),
        ("false_expression", ifFalse.toJson), ("loc", loc.toJson)]
  | .literal kind value unit loc => tagged "Literal"
      [("kind", .str kind.word), ("value", .str value),
        ("subdenomination", .ofOptionalText unit), ("loc", loc.toJson)]
  | .tuple components isArray loc => tagged "TupleExpression"
      [("components", .arr (Expression.slotsToJson components)), ("is_array", .bool isArray),
        ("loc", loc.toJson)]
  | .newExpression typeName loc => tagged "NewExpression"
      [("type_name", typeName.toJson), ("loc", loc.toJson)]
  | .elementaryTypeName typeName => tagged "ElementaryTypeName" typeName.members
  | .other node => tagged "Other" node.members

/-- An operand that may be missing, and is `null` then. -/
def Expression.optionToJson : Option Expression → Json
  | some e => e.toJson
  | none => .null

/-- The forms of some expressions. -/
def Expression.listToJson : List Expression → List Json
  | [] => []
  | e :: rest => e.toJson :: Expression.listToJson rest

/-- The forms of the slots of a tuple, where an empty one is `null`. -/
def Expression.slotsToJson : List (Option Expression) → List Json
  | [] => []
  | slot :: rest => Expression.optionToJson slot :: Expression.slotsToJson rest

end

/-! ## Statements -/

/-- The members of a block, given the forms of its statements. -/
def Block.membersOf (statements : List Json) (isUnchecked : Bool) (loc : Location) :
    List (String × Json) :=
  [("statements", .arr statements), ("unchecked", .bool isUnchecked), ("loc", loc.toJson)]

/-- A slot of a tuple declaration; an empty one is `null`. -/
def VariableDeclaration.slotToJson : Option VariableDeclaration → Json
  | some v => v.toJson
  | none => .null

mutual

/-- A statement, tagged with its shape. -/
def Statement.toJson : Statement → Json
  | .block statements isUnchecked loc =>
      tagged "Block" (Block.membersOf (Statement.listToJson statements) isUnchecked loc)
  | .expression e loc => tagged "ExpressionStatement"
      [("expression", e.toJson), ("loc", loc.toJson)]
  | .variableDeclaration declared initialValue loc => tagged "VariableDeclarationStatement"
      [("variables", .arr (declared.map VariableDeclaration.slotToJson)),
        ("initial_value", Expression.optionToJson initialValue), ("loc", loc.toJson)]
  | .ifElse condition ifTrue ifFalse loc => tagged "IfStatement"
      [("condition", condition.toJson), ("true_body", ifTrue.toJson),
        ("false_body", Statement.optionToJson ifFalse), ("loc", loc.toJson)]
  | .forLoop init condition update body loc => tagged "ForStatement"
      [("init", Statement.optionToJson init), ("condition", Expression.optionToJson condition),
        ("update", Expression.optionToJson update), ("body", Statement.optionToJson body),
        ("loc", loc.toJson)]
  | .whileLoop condition body loc => tagged "WhileStatement"
      [("condition", condition.toJson), ("body", body.toJson), ("loc", loc.toJson)]
  | .doWhile body condition loc => tagged "DoWhileStatement"
      [("body", body.toJson), ("condition", condition.toJson), ("loc", loc.toJson)]
  | .returnValue value loc => tagged "ReturnStatement"
      [("expression", Expression.optionToJson value), ("loc", loc.toJson)]
  | .emitEvent call loc => tagged "EmitStatement"
      [("event_call", call.toJson), ("loc", loc.toJson)]
  | .revertWith error arguments loc => tagged "RevertStatement"
      [("error", .str error), ("arguments", .arr (Expression.listToJson arguments)),
        ("loc", loc.toJson)]
  | .tryCatch e returns body catchBodies loc => tagged "TryStatement"
      [("expression", e.toJson), ("returns", .arr (returns.map VariableDeclaration.toJson)),
        ("body", Statement.optionToJson body),
        ("catch_bodies", .arr (Statement.listToJson catchBodies)), ("loc", loc.toJson)]
  | .other node => tagged "Other" node.members

/-- A statement that may be missing, and is `null` then. -/
def Statement.optionToJson : Option Statement → Json
  | some s => s.toJson
  | none => .null

/-- The forms of some statements. -/
def Statement.listToJson : List Statement → List Json
  | [] => []
  | s :: rest => s.toJson :: Statement.listToJson rest

end

/-- A body as an object without a tag. -/
def Block.toJson (b : Block) : Json :=
  .obj (Block.membersOf (Statement.listToJson b.statements) b.isUnchecked b.loc)

/-- A body, or `null` where there is none. -/
def Block.optionToJson : Option Block → Json
  | some b => b.toJson
  | none => .null

/-! ## Declarations -/

/-- A list of parameters or fields. -/
def declarationsToJson (declared : List VariableDeclaration) : Json :=
  .arr (declared.map VariableDeclaration.toJson)

/-- A pragma directive with its text. -/
def PragmaDirective.toJson (d : PragmaDirective) : Json :=
  tagged "PragmaDirective" [("text", .str d.text), ("loc", d.loc.toJson)]

/-- An import directive with its text. -/
def ImportDirective.toJson (d : ImportDirective) : Json :=
  tagged "ImportDirective" [("text", .str d.text), ("loc", d.loc.toJson)]

/-- One base of a contract, without a tag. -/
def InheritanceSpecifier.toJson (s : InheritanceSpecifier) : Json :=
  .obj [("base_name", .str s.baseName), ("arguments", .arr (Expression.listToJson s.arguments)),
    ("loc", s.loc.toJson)]

/-- A structure with its fields. -/
def StructDefinition.toJson (d : StructDefinition) : Json :=
  tagged "StructDefinition"
    [("name", .str d.name), ("members", declarationsToJson d.members), ("loc", d.loc.toJson)]

/-- An enumeration with the names of its values. -/
def EnumDefinition.toJson (d : EnumDefinition) : Json :=
  tagged "EnumDefinition"
    [("name", .str d.name), ("members", .ofTexts d.members), ("loc", d.loc.toJson)]

/-- An event with its parameters. -/
def EventDefinition.toJson (d : EventDefinition) : Json :=
  tagged "EventDefinition"
    [("name", .str d.name), ("parameters", declarationsToJson d.parameters),
      ("is_anonymous", .bool d.isAnonymous), ("loc", d.loc.toJson)]

/-- The members of an error definition: it is tagged differently inside and outside a contract. -/
def ErrorDefinition.members (d : ErrorDefinition) : List (String × Json) :=
  [("name", .str d.name), ("parameters", declarationsToJson d.parameters), ("loc", d.loc.toJson)]

/-- A declaration of state variables with its initial value. -/
def StateVariableDeclaration.toJson (d : StateVariableDeclaration) : Json :=
  tagged "StateVariableDeclaration"
    [("variables", declarationsToJson d.declared),
      ("initial_value", Expression.optionToJson d.initialValue), ("loc", d.loc.toJson)]

/-- A modifier; an abstract one has the body `null`. -/
def ModifierDefinition.toJson (d : ModifierDefinition) : Json :=
  tagged "ModifierDefinition"
    [("name", .str d.name), ("parameters", declarationsToJson d.parameters),
      ("body", Block.optionToJson d.body), ("loc", d.loc.toJson)]

/-- A function; one that is only declared has the body `null`. -/
def FunctionDefinition.toJson (d : FunctionDefinition) : Json :=
  tagged "FunctionDefinition"
    [("name", .ofOptionalText d.name), ("kind", .str d.kind.word),
      ("visibility", .str d.visibility.word), ("is_free", .bool d.isFree),
      ("parameters", declarationsToJson d.parameters),
      ("return_parameters", declarationsToJson d.returnParameters),
      ("body", Block.optionToJson d.body), ("loc", d.loc.toJson)]

/-- A member of a contract. An error has a tag of its own here. -/
def Member.toJson : Member → Json
  | struct d => d.toJson
  | enum d => d.toJson
  | stateVariable d => d.toJson
  | event d => d.toJson
  | error d => tagged "CustomErrorDefinition" d.members
  | modifier d => d.toJson
  | function d => d.toJson
  | other n => tagged "Other" n.members

/-- A contract with its bases and members. -/
def ContractDefinition.toJson (d : ContractDefinition) : Json :=
  tagged "ContractDefinition"
    [("name", .str d.name), ("kind", .str d.kind.word),
      ("base_contracts", .arr (d.bases.map InheritanceSpecifier.toJson)),
      ("sub_nodes", .arr (d.members.map Member.toJson)), ("loc", d.loc.toJson)]

/-- An item of a file. -/
def TopLevelItem.toJson : TopLevelItem → Json
  | pragma d => d.toJson
  | importDirective d => d.toJson
  | contract d => d.toJson
  | event d => d.toJson
  | error d => tagged "ErrorDefinition" d.members
  | struct d => d.toJson
  | enum d => d.toJson
  | function d => d.toJson
  | stateVariable d => d.toJson
  | other n => tagged "Other" n.members

/-- The tree of a file, without a tag. -/
def SourceUnit.toJson (u : SourceUnit) : Json :=
  .obj [("children", .arr (u.items.map TopLevelItem.toJson)), ("loc", u.loc.toJson)]

end Ast

end SolidityLint
