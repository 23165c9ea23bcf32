import SolidityLint.Grammar.Statement

set_option autoImplicit false

/-! # The grammar of definitions

Contracts, their members, and what may stand at the top of a file. An item that starts like an
expression is a variable or an error, and which of the two shows only after its name. -/

namespace SolidityLint.Grammar

open ParseTree

/-! ## Structs, enums, events -/

/-- A structure with its fields. -/
def structDefinition (p : Productions) : Reader StructDefinition := do
  let start ← nextStart
  expect "struct"
  let name ← expectName
  expect "\x7b"
  let fields ← repeatWhile (isBefore "\x7d") (do
    let start ← nextStart
    let type ← p.type
    let dataLocation ← acceptAs dataLocationOf?
    let name ← expectName
    let field : Declaration Expr := ⟨type, dataLocation, name, ← spanFrom start⟩
    expect ";"
    return field)
  expect "\x7d"
  return ⟨name, fields, ← spanFrom start⟩

/-- An enumeration with its values. -/
def enumDefinition : Reader EnumDefinition := do
  let start ← nextStart
  expect "enum"
  let name ← expectName
  expect "\x7b"
  let values ← commaUntil "\x7d" expectName
  return ⟨name, values, ← spanFrom start⟩

/-- An event with its parameters. -/
def eventDefinition (p : Productions) : Reader EventDefinition := do
  let start ← nextStart
  expect "event"
  let name ← expectName
  expect "("
  let parameters ← commaUntil ")" (do
    let start ← nextStart
    let type ← p.type
    let isIndexed ← accept "indexed"
    let name ← acceptName nameOf?
    return (⟨type, isIndexed, name, ← spanFrom start⟩ : EventParameter))
  let isAnonymous ← accept "anonymous"
  let span ← spanFrom start
  expect ";"
  return ⟨name, parameters, isAnonymous, span⟩

/-! ## Functions -/

/-- A contract that is inherited from, or a modifier that is applied, with its arguments. -/
def base (p : Productions) : Reader Base := do
  let start ← nextStart
  let path ← path
  let arguments ← if ← accept "(" then some <$> commaUntil ")" p.expression else pure none
  return ⟨path, arguments, ← spanFrom start⟩

/-- The contracts that an override names, if it names any. -/
def overridden : Reader Unit := do
  if ← accept "(" then
    let _ ← commaOne path
    expect ")"

/-- May an attribute of a function start with this token? -/
def startsFunctionAttribute (t : Token) : Bool :=
  (visibilityOf? t).isSome || isMutability t || (nameOf? t).isSome
    || t == .fixed "immutable" || t == .fixed "virtual" || t == .fixed "override"

/-- One attribute of a function; a name there is a modifier that is applied. -/
def functionAttribute (p : Productions) : Reader FunctionAttribute := do
  match ← acceptAs visibilityOf? with
  | some v => return .visibility v
  | none =>
      if ((← peek?).bind nameOf?).isSome then return .base (← base p)
      else if ← accept "override" then
        overridden
        return .other
      else
        let _ ← take
        return .other

/-- The attributes of a function, as many as there are. -/
def functionAttributes (p : Productions) : Reader (List FunctionAttribute) :=
  repeatWhile (isNextKind startsFunctionAttribute) (functionAttribute p)

/-- What follows the name of a function: parameters unless `isBare`, attributes, results and a body
    or a semicolon. -/
def functionRest (p : Productions) (start : Nat) (kind : FunctionKind) (name : Option Name)
    (isBare : Bool) : Reader FunctionDefinition := do
  let parameters ← if isBare then pure [] else parameterList p
  let attributes ← functionAttributes p
  let hasReturns ← if ← accept "returns" then pure true else accept "return"
  let returns ← if hasReturns then parameterList p else pure []
  let body ← if ← accept ";" then pure none else some <$> block p
  return ⟨kind, name, parameters, attributes, returns, body, ← spanFrom start⟩

/-- A modifier, with parameters or without. -/
def modifierDefinition (p : Productions) : Reader FunctionDefinition := do
  let start ← nextStart
  expect "modifier"
  let name ← expectName
  functionRest p start .modifier (some name) (!(← isNext "("))

/-- A constructor, a fallback or a receive function, whose keyword comes next. -/
def unnamedFunction (p : Productions) (kind : FunctionKind) : Reader FunctionDefinition := do
  let start ← nextStart
  let _ ← take
  let name ← acceptName nameOf?
  functionRest p start kind name false

/-- A function that has a name. -/
def functionDefinition (p : Productions) : Reader FunctionDefinition := do
  let start ← nextStart
  expect "function"
  let name ← expectName
  functionRest p start .function (some name) false

/-! ## Variables and errors -/

/-- The attributes of a variable that are one word. -/
def variableAttributeOf? (t : Token) : Option VariableAttribute :=
  match visibilityOf? t, t with
  | some v, _ => some (.visibility v)
  | none, .fixed "constant" => some .constant
  | none, .fixed "immutable" => some .immutable
  | none, .fixed "persistent" | none, .fixed "temporary" | none, .fixed "instance" => some .other
  | _, _ => none

/-- Can this token start an attribute of a variable? -/
def startsVariableAttribute (t : Token) : Bool :=
  (variableAttributeOf? t).isSome || t == .fixed "override"

/-- One attribute of a variable. -/
def variableAttribute : Reader VariableAttribute := do
  if ← accept "override" then
    overridden
    return .other
  else expectAs variableAttributeOf?

/-- The rest of a variable after its name. -/
def variableRest (p : Productions) (start : Nat) (type : Expr)
    (attributes : List VariableAttribute) (name : Name) : Reader Member := do
  let initialValue ← if ← accept "=" then some <$> p.expression else pure none
  let span ← spanFrom start
  expect ";"
  return .stateVariable ⟨type, attributes, name, initialValue, span⟩

/-- The rest of an error after its name. -/
def errorRest (p : Productions) (start : Nat) (name : Name) : Reader Member := do
  expect "("
  let parameters ← commaUntil ")" (do
    let start ← nextStart
    let type ← p.type
    let name ← acceptName nameOf?
    return (⟨type, name, ← spanFrom start⟩ : ErrorParameter))
  let span ← spanFrom start
  expect ";"
  return .error ⟨name, parameters, span⟩

/-- A variable or an error, after an expression that is its type. -/
def variableOrError (p : Productions) (start : Nat) (type : Expr) : Reader Member := do
  let attributes ← repeatWhile (isNextKind startsVariableAttribute) variableAttribute
  let name ← expectName
  if attributes.isEmpty && (← isNext "(") then errorRest p start name
  else variableRest p start type attributes name

/-- The attributes in the type of a function, as those of a definition. -/
def TypeAttribute.toFunctionAttribute : TypeAttribute → FunctionAttribute
  | .visibility v => .visibility v
  | .other => .other

/-- A member that starts like an expression. After the bare type of a function there may also be a
    body, which makes it a function without a name, or a name, which makes it a variable without
    attributes. -/
def memberFromType (p : Productions) : Reader Member := do
  let start ← nextStart
  let (e, form) ← chain p
  match form, e with
  | .number, _ => unexpected
  | .functionType, .functionType parameters attributes returns _ =>
      match ← acceptName nameOf? with
      | some name => variableRest p start e [] name
      | none =>
          let body ← if ← accept ";" then pure none
            else if ← isNext "\x7b" then some <$> block p
            else unexpected
          return .function ⟨.function, none, parameters,
            attributes.map TypeAttribute.toFunctionAttribute, returns, body, ← spanFrom start⟩
  | _, _ => variableOrError p start e

/-! ## Type definitions, `using`, annotations -/

/-- A type that gets a name of its own. -/
def typeDefinition (p : Productions) : Reader Member := do
  let start ← nextStart
  expect "type"
  let _ ← expectName
  expect "is"
  let _ ← p.type
  let span ← spanFrom start
  expect ";"
  return .typeDefinition span

/-- The operators that a user-defined type may define. -/
def definableOperators : List String :=
  ["&", "~", "|", "^", "+", "/", "%", "*", "-", "==", ">", ">=", "<", "<=", "!="]

/-- Is it an operator that a library can define? -/
def isDefinableOperator : Token → Bool
  | .fixed s => definableOperators.contains s
  | _ => false

/-- A directive that attaches functions to a type. -/
def usingDirective (p : Productions) : Reader Member := do
  let start ← nextStart
  expect "using"
  if ← accept "\x7b" then
    let _ ← commaUntil "\x7d" (do
      let _ ← path
      if ← accept "as" then expectKind isDefinableOperator)
  else
    let _ ← path
  expect "for"
  if !(← accept "*") then
    let _ ← p.type
  let _ ← acceptName nameOf?
  let span ← spanFrom start
  expect ";"
  return .usingFor span

/-- An annotation, whose name comes next. -/
def annotationItem (p : Productions) : Reader Member := do
  let start ← nextStart
  let _ ← take
  let _ ← condition p
  return .annotated (← spanFrom start)

/-! ## Members and contracts -/

/-- A member of a contract; outside one, modifiers and unnamed functions have no place. -/
def member (p : Productions) (inContract : Bool) : Reader Member := do
  match ← peek?, ← peekSecond?, inContract with
  | some (.fixed ";"), _, _ =>
      let _ ← take
      return .semicolon
  | some (.annotated _), _, _ => annotationItem p
  | some (.fixed "struct"), _, _ => return .struct (← structDefinition p)
  | some (.fixed "enum"), _, _ => return .enum (← enumDefinition)
  | some (.fixed "event"), _, _ => return .event (← eventDefinition p)
  | some (.fixed "using"), _, _ => usingDirective p
  | some (.fixed "type"), some (.fixed "("), _ => memberFromType p
  | some (.fixed "type"), some (.fixed "\x7b"), _ => memberFromType p
  | some (.fixed "type"), _, _ => typeDefinition p
  | some (.fixed "function"), some (.fixed "("), _ => memberFromType p
  | some (.fixed "function"), _, _ => return .function (← functionDefinition p)
  | some (.fixed "modifier"), _, true => return .function (← modifierDefinition p)
  | some (.fixed "constructor"), _, true => return .function (← unnamedFunction p .constructor)
  | some (.fixed "fallback"), _, true => return .function (← unnamedFunction p .fallback)
  | some (.fixed "receive"), _, true => return .function (← unnamedFunction p .receive)
  | _, _, _ => memberFromType p

/-- The kind of contract that comes next, if one does. -/
def contractKindOf? : Token → Option Ast.ContractKind
  | .fixed "abstract" => some .abstract
  | .fixed "contract" => some .contract
  | .fixed "interface" => some .interface
  | .fixed "library" => some .library
  | _ => none

/-- A contract, an interface or a library. -/
def contractDefinition (p : Productions) : Reader ContractDefinition := do
  let start ← nextStart
  let kind ← expectAs contractKindOf?
  if kind = .abstract then expect "contract"
  let name ← expectName
  let bases ← if ← accept "is" then commaOne (base p) else pure []
  expect "\x7b"
  let members ← repeatWhile (isBefore "\x7d") (member p true)
  expect "\x7d"
  return ⟨kind, name, bases, members, ← spanFrom start⟩

end SolidityLint.Grammar
