import SolidityLint.Location

set_option autoImplicit false

/-! # The syntax tree

The tree that the rules inspect. It keeps what a rule may look at and the location of every node;
constructs that no rule inspects are kept as `OtherNode`s, so that checks on the order of
declarations still see that something stands there.

Operators and names are text, because a tree may also be read from JSON and then holds whatever
was written there. Types are kept as they are spelled: `uint` and `uint256` are different texts.

Expressions nest in expressions only and statements in statements and expressions; everything
above them (declarations, members, the unit) is a finite stack of records. -/

namespace SolidityLint.Ast

/-! ## Closed sets of words -/

/-- The four ways to introduce a contract. -/
inductive ContractKind where
  | contract
  | abstract
  | interface
  | library
deriving Repr, DecidableEq, Inhabited

/-- How messages call a contract of this kind. -/
def ContractKind.label : ContractKind → String
  | .contract => "contract"
  | .abstract => "abstract contract"
  | .interface => "interface"
  | .library => "library"

/-- Who may use a function or a state variable; `unspecified` when nothing is written. -/
inductive Visibility where
  | unspecified
  | external
  | pub
  | internal
  | priv
deriving Repr, DecidableEq, Inhabited

/-- The data location of a reference-typed variable. -/
inductive DataLocation where
  | memory
  | storage
  | calldata
deriving Repr, DecidableEq, Inhabited

/-- The outermost shape of a type. -/
inductive TypeKind where
  | elementary
  | userDefined
  | array
  | mapping
  | function
deriving Repr, DecidableEq, Inhabited

/-- What a function definition defines. -/
inductive FunctionKind where
  | function
  | constructor
  | fallback
  | receive
deriving Repr, DecidableEq, Inhabited

/-- The kinds of literal. -/
inductive LiteralKind where
  | number
  | string
  | bool
  | hex
  | address
deriving Repr, DecidableEq, Inhabited

/-! ## Leaves -/

/-- A type as it is spelled. -/
structure TypeName where
  name : String
  kind : TypeKind
  loc : Location
deriving Repr, DecidableEq, Inhabited

/-- A construct that no rule inspects. -/
structure OtherNode where
  kind : String
  loc : Location
deriving Repr, DecidableEq, Inhabited

/-- Anything declared like a variable: state variables, parameters, locals, fields. -/
structure VariableDeclaration where
  name : Option String
  typeName : TypeName
  visibility : Visibility
  dataLocation : Option DataLocation
  isStateVariable : Bool
  isConstant : Bool
  isImmutable : Bool
  isIndexed : Bool
  loc : Location
deriving Repr, DecidableEq, Inhabited

/-! ## Expressions -/

/-- Expressions. What no rule tells apart is kept as a node of kind `other`. -/
inductive Expression where
  | identifier (name : String) (loc : Location)
  | memberAccess (base : Expression) (member : String) (loc : Location)
  | indexAccess (base : Expression) (index : Option Expression) (loc : Location)
  /-- A call; `names` holds the argument names of a call by name and is empty otherwise. -/
  | functionCall (callee : Expression) (arguments : List Expression) (names : List String)
      (loc : Location)
  /-- A callee with call options, as in `target.call{value: v}`. -/
  | callOptions (callee : Expression) (names : List String) (values : List Expression)
      (loc : Location)
  /-- A binary operator, assignments included. -/
  | binaryOperation (operator : String) (left right : Expression) (loc : Location)
  /-- A unary operator; `leading` tells whether it stands before its operand. -/
  | unaryOperation (operator : String) (operand : Expression) (leading : Bool) (loc : Location)
  | conditional (condition ifTrue ifFalse : Expression) (loc : Location)
  /-- A literal without its quotes; `unit` is a suffix such as `ether`. -/
  | literal (kind : LiteralKind) (value : String) (unit : Option String) (loc : Location)
  /-- A parenthesised list, whose slots may be empty, or an array literal. -/
  | tuple (components : List (Option Expression)) (isArray : Bool) (loc : Location)
  | newExpression (typeName : TypeName) (loc : Location)
  | elementaryTypeName (typeName : TypeName)
  | other (node : OtherNode)
deriving Repr, Inhabited

namespace Expression

/-- Where an expression is written. -/
def loc : Expression → Location
  | identifier _ l | memberAccess _ _ l | indexAccess _ _ l | functionCall _ _ _ l
  | callOptions _ _ _ l | binaryOperation _ _ _ l | unaryOperation _ _ _ l | conditional _ _ _ l
  | literal _ _ _ l | tuple _ _ l | newExpression _ l => l
  | elementaryTypeName t => t.loc
  | other n => n.loc

/-- The name of a bare identifier. -/
def identifierName : Expression → Option String
  | identifier name _ => some name
  | _ => none

/-- The root identifier of a path: `a` for `a`, for `a[i].b` and for `a.b[c]`. -/
def baseIdentifier : Expression → Option String
  | identifier name _ => some name
  | indexAccess base _ _ => base.baseIdentifier
  | memberAccess base _ _ => base.baseIdentifier
  | _ => none

/-- Is this the number literal `1`, without a unit? -/
def isNumberOne : Expression → Bool
  | literal .number "1" none _ => true
  | _ => false

/-- A callee without one layer of call options. -/
def withoutOptions : Expression → Expression
  | callOptions callee _ _ _ => callee
  | e => e

/-- The member that is called when the callee, less its options, is `x.member`. -/
def calledMember (callee : Expression) : Option String :=
  match callee.withoutOptions with
  | memberAccess _ member _ => some member
  | _ => none

/-- The function that is called when the callee, less its options, is a bare identifier. -/
def calledFunction (callee : Expression) : Option String :=
  callee.withoutOptions.identifierName

end Expression

/-- The operators that write to their left operand. -/
def assignmentOperators : List String :=
  ["=", "|=", "&=", "^=", "<<=", ">>=", "+=", "-=", "*=", "/=", "%=", "**="]

/-- Does this operator write to its left operand? -/
def isAssignment (operator : String) : Bool :=
  assignmentOperators.contains operator

/-! ## Statements -/

/-- Statements. What no rule tells apart is kept as a node of kind `other`. -/
inductive Statement where
  | block (statements : List Statement) (isUnchecked : Bool) (loc : Location)
  | expression (expression : Expression) (loc : Location)
  /-- `T a = init;` or `(T a, , U b) = init;`, where an empty slot is `none`. -/
  | variableDeclaration (declared : List (Option VariableDeclaration))
      (initialValue : Option Expression) (loc : Location)
  | ifElse (condition : Expression) (ifTrue : Statement) (ifFalse : Option Statement)
      (loc : Location)
  | forLoop (init : Option Statement) (condition update : Option Expression)
      (body : Option Statement) (loc : Location)
  | whileLoop (condition : Expression) (body : Statement) (loc : Location)
  | doWhile (body : Statement) (condition : Expression) (loc : Location)
  | returnValue (value : Option Expression) (loc : Location)
  | emitEvent (call : Expression) (loc : Location)
  /-- `revert Name(...)`; a plain `revert(...)` is a call expression instead. -/
  | revertWith (error : String) (arguments : List Expression) (loc : Location)
  | tryCatch (expression : Expression) (returns : List VariableDeclaration)
      (body : Option Statement) (catchBodies : List Statement) (loc : Location)
  | other (node : OtherNode)
deriving Repr, Inhabited

/-- Where a statement is written. -/
def Statement.loc : Statement → Location
  | block _ _ l | expression _ l | variableDeclaration _ _ l | ifElse _ _ _ l | forLoop _ _ _ _ l
  | whileLoop _ _ l | doWhile _ _ l | returnValue _ l | emitEvent _ l | revertWith _ _ l
  | tryCatch _ _ _ _ l => l
  | other n => n.loc

/-- The body of a function or of a modifier. -/
structure Block where
  statements : List Statement
  isUnchecked : Bool
  loc : Location
deriving Repr, Inhabited

/-! ## Declarations -/

/-- A `pragma` directive, with its text as written. -/
structure PragmaDirective where
  text : String
  loc : Location
deriving Repr, DecidableEq, Inhabited

/-- An `import` directive, with its text as written. -/
structure ImportDirective where
  text : String
  loc : Location
deriving Repr, DecidableEq, Inhabited

/-- One base of a contract, with the arguments for its constructor. -/
structure InheritanceSpecifier where
  baseName : String
  arguments : List Expression
  loc : Location
deriving Repr, Inhabited

/-- A structure and its fields. -/
structure StructDefinition where
  name : String
  members : List VariableDeclaration
  loc : Location
deriving Repr, DecidableEq, Inhabited

/-- An enumeration and the names of its values. -/
structure EnumDefinition where
  name : String
  members : List String
  loc : Location
deriving Repr, DecidableEq, Inhabited

/-- An event and what it records. -/
structure EventDefinition where
  name : String
  parameters : List VariableDeclaration
  isAnonymous : Bool
  loc : Location
deriving Repr, DecidableEq, Inhabited

/-- An error that a revert can carry. -/
structure ErrorDefinition where
  name : String
  parameters : List VariableDeclaration
  loc : Location
deriving Repr, DecidableEq, Inhabited

/-- A state variable of a contract, or a constant at file level. -/
structure StateVariableDeclaration where
  declared : List VariableDeclaration
  initialValue : Option Expression
  loc : Location
deriving Repr, Inhabited

/-- A modifier of functions; an abstract one has no body. -/
structure ModifierDefinition where
  name : String
  parameters : List VariableDeclaration
  body : Option Block
  loc : Location
deriving Repr, Inhabited

/-- A function of a contract or of a file, or one of the three special kinds. -/
structure FunctionDefinition where
  /-- Constructors, fallback and receive functions have none. -/
  name : Option String
  kind : FunctionKind
  visibility : Visibility
  /-- Declared at file level, where no visibility can be written. -/
  isFree : Bool
  parameters : List VariableDeclaration
  returnParameters : List VariableDeclaration
  body : Option Block
  loc : Location
deriving Repr, Inhabited

namespace FunctionDefinition

/-- Is it the constructor of a contract? -/
def isConstructor (f : FunctionDefinition) : Bool :=
  f.kind = .constructor

/-- The name that messages use: the function's own, else the word for its kind. -/
def displayName (f : FunctionDefinition) : String :=
  match f.name, f.kind with
  | some name, _ => name
  | none, .constructor => "constructor"
  | none, .fallback => "fallback"
  | none, .receive => "receive"
  | none, .function => "<anonymous>"

end FunctionDefinition

/-- A member of a contract body. -/
inductive Member where
  | struct (definition : StructDefinition)
  | enum (definition : EnumDefinition)
  | stateVariable (declaration : StateVariableDeclaration)
  | event (definition : EventDefinition)
  | error (definition : ErrorDefinition)
  | modifier (definition : ModifierDefinition)
  | function (definition : FunctionDefinition)
  | other (node : OtherNode)
deriving Repr, Inhabited

/-- A contract, an interface or a library. -/
structure ContractDefinition where
  name : String
  kind : ContractKind
  bases : List InheritanceSpecifier
  members : List Member
  loc : Location
deriving Repr, Inhabited

/-- The functions declared directly in a contract, in the order of declaration. -/
def ContractDefinition.functions (c : ContractDefinition) : List FunctionDefinition :=
  c.members.filterMap fun
    | .function f => some f
    | _ => none

/-- An item at the top level of a source file. -/
inductive TopLevelItem where
  | pragma (directive : PragmaDirective)
  | importDirective (directive : ImportDirective)
  | contract (definition : ContractDefinition)
  | event (definition : EventDefinition)
  | error (definition : ErrorDefinition)
  | struct (definition : StructDefinition)
  | enum (definition : EnumDefinition)
  | function (definition : FunctionDefinition)
  | stateVariable (declaration : StateVariableDeclaration)
  | other (node : OtherNode)
deriving Repr, Inhabited

/-- A source file. -/
structure SourceUnit where
  items : List TopLevelItem
  loc : Location
deriving Repr, Inhabited

end SolidityLint.Ast
