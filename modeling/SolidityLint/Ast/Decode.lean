import SolidityLint.Ast
import SolidityLint.Json

set_option autoImplicit false

/-! # Reading the syntax tree from JSON

The inverse of the JSON form of the tree, made lenient: a field that is missing or `null` reads as
the emptiest value of its type (the empty text, the empty list, `false`, no node, the zero
location). Only a part that must be there (an operand, a loop body) or a word that is not one of its
set makes the whole reading fail.

Expressions and statements are read with a bound on the nesting; the bound that the public readers
use is the depth of the JSON value itself, which no tree in it can exceed. -/

namespace SolidityLint

/-! ## Plain values -/

namespace Json

/-- A text; nothing written is the empty text. -/
def text? : Json → Option String
  | str s => some s
  | null => some ""
  | _ => none

/-- A text that may be missing. -/
def optionalText? : Json → Option (Option String)
  | str s => some (some s)
  | null => some none
  | _ => none

/-- A truth value; nothing written is `false`. -/
def flag? : Json → Option Bool
  | bool b => some b
  | null => some false
  | _ => none

/-- A number; nothing written is zero. -/
def num? : Json → Option Nat
  | num n => some n
  | null => some 0
  | _ => none

/-- The items of a list; nothing written is the empty list. -/
def items? : Json → Option (List Json)
  | arr items => some items
  | null => some []
  | _ => none

/-- A list whose items are all read by `read`. -/
def listOf? {α : Type} (read : Json → Option α) (j : Json) : Option (List α) := do
  (← j.items?).mapM read

/-- A part that may be missing. -/
def optional? {α : Type} (read : Json → Option α) : Json → Option (Option α)
  | null => some none
  | j => (read j).map some

/-- A list of texts. -/
def texts? (j : Json) : Option (List String) :=
  j.listOf? text?

/-- One of a set of words; `fallback` when nothing is written. -/
def word? {α : Type} (fallback : α) (words : List (String × α)) : Json → Option α
  | str s => words.lookup s
  | null => some fallback
  | _ => none

end Json

/-- Reads a line and a column. -/
def Position.ofJson? (j : Json) : Option Position := do
  return ⟨← (j.field "line").num?, ← (j.field "column").num?⟩

/-- A location is written as an object with both ends, or as the four numbers in a row. -/
def Location.ofJson? : Json → Option Location
  | .null => some .zero
  | .arr [.num line, .num column, .num line', .num column'] =>
      some ⟨⟨line, column⟩, ⟨line', column'⟩⟩
  | .obj members => do
      let j : Json := .obj members
      return ⟨← Position.ofJson? (j.field "start"), ← Position.ofJson? (j.field "end")⟩
  | _ => none

/-- The location of a node; one without is at the zero location. -/
def Json.loc? (j : Json) : Option Location :=
  Location.ofJson? (j.field "loc")

namespace Ast

/-! ## Words -/

/-- Reads the kind of a contract. -/
def ContractKind.ofJson? : Json → Option ContractKind :=
  Json.word? .contract [("contract", .contract), ("abstract", .abstract),
    ("interface", .interface), ("library", .library)]

/-- Reads a visibility; nothing written is none. -/
def Visibility.ofJson? : Json → Option Visibility :=
  Json.word? .unspecified [("default", .unspecified), ("external", .external), ("public", .pub),
    ("internal", .internal), ("private", .priv)]

/-- Reads a data location, which may be missing. -/
def DataLocation.ofJson? : Json → Option (Option DataLocation) :=
  Json.word? none [("memory", some .memory), ("storage", some .storage),
    ("calldata", some .calldata)]

/-- Reads the kind of a type. -/
def TypeKind.ofJson? : Json → Option TypeKind :=
  Json.word? .elementary [("Elementary", .elementary), ("UserDefined", .userDefined),
    ("Array", .array), ("Mapping", .mapping), ("Function", .function)]

/-- Reads the kind of a function. -/
def FunctionKind.ofJson? : Json → Option FunctionKind :=
  Json.word? .function [("function", .function), ("constructor", .constructor),
    ("fallback", .fallback), ("receive", .receive)]

/-- Reads the kind of a literal. -/
def LiteralKind.ofJson? : Json → Option LiteralKind :=
  Json.word? .number [("Number", .number), ("String", .string), ("Bool", .bool), ("Hex", .hex),
    ("Address", .address)]

/-! ## Leaves -/

/-- Reads a type. -/
def TypeName.ofJson? (j : Json) : Option TypeName := do
  return ⟨← (j.field "name").text?, ← TypeKind.ofJson? (j.field "kind"), ← j.loc?⟩

/-- Reads a part that no rule inspects. -/
def OtherNode.ofJson? (j : Json) : Option OtherNode := do
  return ⟨← (j.field "kind").text?, ← j.loc?⟩

/-- Reads a variable, a parameter or a field. -/
def VariableDeclaration.ofJson? (j : Json) : Option VariableDeclaration := do
  return {
    name := ← (j.field "name").optionalText?
    typeName := ← TypeName.ofJson? (j.field "type_name")
    visibility := ← Visibility.ofJson? (j.field "visibility")
    dataLocation := ← DataLocation.ofJson? (j.field "storage_location")
    isStateVariable := ← (j.field "is_state_var").flag?
    isConstant := ← (j.field "is_declared_const").flag?
    isImmutable := ← (j.field "is_immutable").flag?
    isIndexed := ← (j.field "is_indexed").flag?
    loc := ← j.loc? }

/-! ## Expressions -/

/-- Reads the members of an expression of a known shape, its operands with `read`. -/
def Expression.ofShape? (read : Json → Option Expression) (shape : String) (j : Json) :
    Option Expression := do
  let loc ← j.loc?
  match shape with
  | "Identifier" => return .identifier (← (j.field "name").text?) loc
  | "MemberAccess" =>
      return .memberAccess (← read (j.field "expression")) (← (j.field "member_name").text?) loc
  | "IndexAccess" =>
      return .indexAccess (← read (j.field "base")) (← (j.field "index").optional? read) loc
  | "FunctionCall" =>
      return .functionCall (← read (j.field "expression")) (← (j.field "arguments").listOf? read)
        (← (j.field "names").texts?) loc
  | "NameValueExpression" =>
      return .callOptions (← read (j.field "expression")) (← (j.field "names").texts?)
        (← (j.field "values").listOf? read) loc
  | "BinaryOperation" =>
      return .binaryOperation (← (j.field "operator").text?) (← read (j.field "left"))
        (← read (j.field "right")) loc
  | "UnaryOperation" =>
      return .unaryOperation (← (j.field "operator").text?) (← read (j.field "sub_expression"))
        (← (j.field "is_prefix").flag?) loc
  | "Conditional" =>
      return .conditional (← read (j.field "condition")) (← read (j.field "true_expression"))
        (← read (j.field "false_expression")) loc
  | "Literal" =>
      return .literal (← LiteralKind.ofJson? (j.field "kind")) (← (j.field "value").text?)
        (← (j.field "subdenomination").optionalText?) loc
  | "TupleExpression" =>
      return .tuple (← (j.field "components").listOf? (Json.optional? read))
        (← (j.field "is_array").flag?) loc
  | "NewExpression" => return .newExpression (← TypeName.ofJson? (j.field "type_name")) loc
  | "ElementaryTypeName" => return .elementaryTypeName (← TypeName.ofJson? j)
  | "Other" => return .other (← OtherNode.ofJson? j)
  | _ => none

/-- Reads an expression that nests at most `bound` deep. -/
def Expression.ofJsonWithin? : (bound : Nat) → Json → Option Expression
  | 0, _ => none
  | bound + 1, j => do
      Expression.ofShape? (Expression.ofJsonWithin? bound) (← (j.field "type").text?) j

/-- Reads an expression. It nests no deeper than its JSON value. -/
def Expression.ofJson? (j : Json) : Option Expression :=
  Expression.ofJsonWithin? j.depth j

/-! ## Statements -/

/-- Reads the members of a statement of a known shape, the statements in it with `read`. -/
def Statement.ofShape? (read : Json → Option Statement) (shape : String) (j : Json) :
    Option Statement := do
  let loc ← j.loc?
  match shape with
  | "Block" =>
      return .block (← (j.field "statements").listOf? read) (← (j.field "unchecked").flag?) loc
  | "ExpressionStatement" => return .expression (← Expression.ofJson? (j.field "expression")) loc
  | "VariableDeclarationStatement" =>
      return .variableDeclaration
        (← (j.field "variables").listOf? (Json.optional? VariableDeclaration.ofJson?))
        (← (j.field "initial_value").optional? Expression.ofJson?) loc
  | "IfStatement" =>
      return .ifElse (← Expression.ofJson? (j.field "condition")) (← read (j.field "true_body"))
        (← (j.field "false_body").optional? read) loc
  | "ForStatement" =>
      return .forLoop (← (j.field "init").optional? read)
        (← (j.field "condition").optional? Expression.ofJson?)
        (← (j.field "update").optional? Expression.ofJson?)
        (← (j.field "body").optional? read) loc
  | "WhileStatement" =>
      return .whileLoop (← Expression.ofJson? (j.field "condition")) (← read (j.field "body")) loc
  | "DoWhileStatement" =>
      return .doWhile (← read (j.field "body")) (← Expression.ofJson? (j.field "condition")) loc
  | "ReturnStatement" =>
      return .returnValue (← (j.field "expression").optional? Expression.ofJson?) loc
  | "EmitStatement" => return .emitEvent (← Expression.ofJson? (j.field "event_call")) loc
  | "RevertStatement" =>
      return .revertWith (← (j.field "error").text?)
        (← (j.field "arguments").listOf? Expression.ofJson?) loc
  | "TryStatement" =>
      return .tryCatch (← Expression.ofJson? (j.field "expression"))
        (← (j.field "returns").listOf? VariableDeclaration.ofJson?)
        (← (j.field "body").optional? read) (← (j.field "catch_bodies").listOf? read) loc
  | "Other" => return .other (← OtherNode.ofJson? j)
  | _ => none

/-- Reads a statement that nests at most `bound` deep. -/
def Statement.ofJsonWithin? : (bound : Nat) → Json → Option Statement
  | 0, _ => none
  | bound + 1, j => do
      Statement.ofShape? (Statement.ofJsonWithin? bound) (← (j.field "type").text?) j

/-- Reads a statement. It nests no deeper than its JSON value. -/
def Statement.ofJson? (j : Json) : Option Statement :=
  Statement.ofJsonWithin? j.depth j

/-- A body needs no tag, since nothing else can stand there. -/
def Block.ofJson? (j : Json) : Option Block := do
  return ⟨← (j.field "statements").listOf? Statement.ofJson?, ← (j.field "unchecked").flag?,
    ← j.loc?⟩

/-! ## Declarations -/

/-- Reads a list of parameters or fields. -/
def declarations? (j : Json) : Option (List VariableDeclaration) :=
  j.listOf? VariableDeclaration.ofJson?

/-- Reads a pragma directive. -/
def PragmaDirective.ofJson? (j : Json) : Option PragmaDirective := do
  return ⟨← (j.field "text").text?, ← j.loc?⟩

/-- Reads an import directive. -/
def ImportDirective.ofJson? (j : Json) : Option ImportDirective := do
  return ⟨← (j.field "text").text?, ← j.loc?⟩

/-- Reads one base of a contract. -/
def InheritanceSpecifier.ofJson? (j : Json) : Option InheritanceSpecifier := do
  return ⟨← (j.field "base_name").text?, ← (j.field "arguments").listOf? Expression.ofJson?,
    ← j.loc?⟩

/-- Reads a structure. -/
def StructDefinition.ofJson? (j : Json) : Option StructDefinition := do
  return ⟨← (j.field "name").text?, ← declarations? (j.field "members"), ← j.loc?⟩

/-- Reads an enumeration. -/
def EnumDefinition.ofJson? (j : Json) : Option EnumDefinition := do
  return ⟨← (j.field "name").text?, ← (j.field "members").texts?, ← j.loc?⟩

/-- Reads an event. -/
def EventDefinition.ofJson? (j : Json) : Option EventDefinition := do
  return ⟨← (j.field "name").text?, ← declarations? (j.field "parameters"),
    ← (j.field "is_anonymous").flag?, ← j.loc?⟩

/-- Reads an error definition, under either of its tags. -/
def ErrorDefinition.ofJson? (j : Json) : Option ErrorDefinition := do
  return ⟨← (j.field "name").text?, ← declarations? (j.field "parameters"), ← j.loc?⟩

/-- Reads a declaration of state variables. -/
def StateVariableDeclaration.ofJson? (j : Json) : Option StateVariableDeclaration := do
  return ⟨← declarations? (j.field "variables"),
    ← (j.field "initial_value").optional? Expression.ofJson?, ← j.loc?⟩

/-- Reads a modifier. -/
def ModifierDefinition.ofJson? (j : Json) : Option ModifierDefinition := do
  return ⟨← (j.field "name").text?, ← declarations? (j.field "parameters"),
    ← (j.field "body").optional? Block.ofJson?, ← j.loc?⟩

/-- Reads a function. -/
def FunctionDefinition.ofJson? (j : Json) : Option FunctionDefinition := do
  return {
    name := ← (j.field "name").optionalText?
    kind := ← FunctionKind.ofJson? (j.field "kind")
    visibility := ← Visibility.ofJson? (j.field "visibility")
    isFree := ← (j.field "is_free").flag?
    parameters := ← declarations? (j.field "parameters")
    returnParameters := ← declarations? (j.field "return_parameters")
    body := ← (j.field "body").optional? Block.ofJson?
    loc := ← j.loc? }

/-- Reads a member of a contract by its tag. -/
def Member.ofJson? (j : Json) : Option Member := do
  match ← (j.field "type").text? with
  | "StructDefinition" => return struct (← StructDefinition.ofJson? j)
  | "EnumDefinition" => return enum (← EnumDefinition.ofJson? j)
  | "StateVariableDeclaration" => return stateVariable (← StateVariableDeclaration.ofJson? j)
  | "EventDefinition" => return event (← EventDefinition.ofJson? j)
  | "CustomErrorDefinition" => return error (← ErrorDefinition.ofJson? j)
  | "ModifierDefinition" => return modifier (← ModifierDefinition.ofJson? j)
  | "FunctionDefinition" => return function (← FunctionDefinition.ofJson? j)
  | "Other" => return other (← OtherNode.ofJson? j)
  | _ => none

/-- Reads a contract. -/
def ContractDefinition.ofJson? (j : Json) : Option ContractDefinition := do
  return {
    name := ← (j.field "name").text?
    kind := ← ContractKind.ofJson? (j.field "kind")
    bases := ← (j.field "base_contracts").listOf? InheritanceSpecifier.ofJson?
    members := ← (j.field "sub_nodes").listOf? Member.ofJson?
    loc := ← j.loc? }

/-- Reads an item of a file by its tag. -/
def TopLevelItem.ofJson? (j : Json) : Option TopLevelItem := do
  match ← (j.field "type").text? with
  | "PragmaDirective" => return pragma (← PragmaDirective.ofJson? j)
  | "ImportDirective" => return importDirective (← ImportDirective.ofJson? j)
  | "ContractDefinition" => return contract (← ContractDefinition.ofJson? j)
  | "EventDefinition" => return event (← EventDefinition.ofJson? j)
  | "ErrorDefinition" => return error (← ErrorDefinition.ofJson? j)
  | "StructDefinition" => return struct (← StructDefinition.ofJson? j)
  | "EnumDefinition" => return enum (← EnumDefinition.ofJson? j)
  | "FunctionDefinition" => return function (← FunctionDefinition.ofJson? j)
  | "StateVariableDeclaration" => return stateVariable (← StateVariableDeclaration.ofJson? j)
  | "Other" => return other (← OtherNode.ofJson? j)
  | _ => none

/-- Reads the tree of a file. -/
def SourceUnit.ofJson? (j : Json) : Option SourceUnit := do
  return ⟨← (j.field "children").listOf? TopLevelItem.ofJson?, ← j.loc?⟩

end Ast

end SolidityLint
