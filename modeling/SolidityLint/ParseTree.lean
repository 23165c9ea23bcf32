import SolidityLint.Ast

set_option autoImplicit false

/-! # Parse trees

What the grammar makes of a source, before it is turned into the syntax tree that the rules inspect.
A parse tree keeps byte offsets in place of lines and columns, tells a parenthesised expression from
a bare one, and keeps whatever the syntax tree drops: the operands of unary signs, the bounds of
slices, the arguments of `new`, the parameters of `catch`.

Expressions and statements nest in each other, because a call may carry a whole block. -/

namespace SolidityLint.ParseTree

open Ast (Visibility DataLocation)

/-- A stretch of the source, in bytes. -/
structure Span where
  start : Nat
  stop : Nat
deriving Repr, DecidableEq, Inhabited

/-- An identifier where it is written. -/
structure Name where
  text : String
  span : Span
deriving Repr, DecidableEq, Inhabited

/-- A dotted path as one text. -/
def dotted (path : List Name) : String :=
  String.intercalate "." (path.map Name.text)

/-! ## Operators -/

/-- Operators before an operand that the syntax tree keeps. -/
inductive LeadingOperator where
  | increment
  | decrement
  | not
  | bitNot
  | delete
deriving Repr, DecidableEq, Inhabited

/-- How a leading operator is spelled. -/
def LeadingOperator.symbol : LeadingOperator → String
  | increment => "++"
  | decrement => "--"
  | not => "!"
  | bitNot => "~"
  | delete => "delete"

/-- A sign before an operand. -/
inductive Sign where
  | plus
  | minus
deriving Repr, DecidableEq, Inhabited

/-- Operators after an operand. -/
inductive TrailingOperator where
  | increment
  | decrement
deriving Repr, DecidableEq, Inhabited

/-- How a trailing operator is spelled. -/
def TrailingOperator.symbol : TrailingOperator → String
  | increment => "++"
  | decrement => "--"

/-- Operators between two operands. -/
inductive BinaryOperator where
  | power
  | multiply
  | divide
  | modulo
  | add
  | subtract
  | shiftLeft
  | shiftRight
  | bitAnd
  | bitXor
  | bitOr
  | less
  | more
  | lessEqual
  | moreEqual
  | equal
  | notEqual
  | and
  | or
deriving Repr, DecidableEq, Inhabited

/-- How an operator between two operands is spelled. -/
def BinaryOperator.symbol : BinaryOperator → String
  | power => "**"
  | multiply => "*"
  | divide => "/"
  | modulo => "%"
  | add => "+"
  | subtract => "-"
  | shiftLeft => "<<"
  | shiftRight => ">>"
  | bitAnd => "&"
  | bitXor => "^"
  | bitOr => "|"
  | less => "<"
  | more => ">"
  | lessEqual => "<="
  | moreEqual => ">="
  | equal => "=="
  | notEqual => "!="
  | and => "&&"
  | or => "||"

/-- Operators that assign, some after an operation. -/
inductive AssignmentOperator where
  | assign
  | bitOr
  | bitXor
  | bitAnd
  | shiftLeft
  | shiftRight
  | add
  | subtract
  | multiply
  | divide
  | modulo
deriving Repr, DecidableEq, Inhabited

/-- How an assignment operator is spelled. -/
def AssignmentOperator.symbol : AssignmentOperator → String
  | assign => "="
  | bitOr => "|="
  | bitXor => "^="
  | bitAnd => "&="
  | shiftLeft => "<<="
  | shiftRight => ">>="
  | add => "+="
  | subtract => "-="
  | multiply => "*="
  | divide => "/="
  | modulo => "%="

/-! ## Parts shared by expressions and statements -/

/-- A parameter, or a slot of a parenthesised list: a type or expression, and a name if it
    declares one. -/
structure Parameter (ε : Type) where
  type : ε
  dataLocation : Option DataLocation
  name : Option Name
  span : Span
deriving Repr, Inhabited

/-- An argument given by name. -/
structure NamedArgument (ε : Type) where
  name : Name
  value : ε
deriving Repr, Inhabited

/-- A local declaration, which always has a name. -/
structure Declaration (ε : Type) where
  type : ε
  dataLocation : Option DataLocation
  name : Name
  span : Span
deriving Repr, Inhabited

/-- One part of a literal that is written in several adjacent pieces. -/
structure LiteralPart where
  text : String
  span : Span
deriving Repr, DecidableEq, Inhabited

/-- An attribute in the type of a function. -/
inductive TypeAttribute where
  | visibility (v : Visibility)
  /-- `pure`, `view`, `constant`, `payable` or `immutable`. -/
  | other
deriving Repr, DecidableEq, Inhabited

/-- A clause of a `try` statement. -/
structure CatchClause (ε σ : Type) where
  name : Option Name
  parameter : Option (Parameter ε)
  body : σ
deriving Repr, Inhabited

/-! ## Expressions and statements -/

mutual

/-- Expressions, and types where these can stand in their place. -/
inductive Expr where
  | identifier (name : Name)
  | member (base : Expr) (member : Name) (span : Span)
  | index (base : Expr) (index : Option Expr) (span : Span)
  | slice (base : Expr) (low high : Option Expr) (span : Span)
  | parenthesis (inner : Expr) (span : Span)
  | call (callee : Expr) (arguments : List Expr) (span : Span)
  /-- A call with arguments by name. -/
  | namedCall (callee : Expr) (arguments : List (NamedArgument Expr)) (span : Span)
  /-- A callee with call options. -/
  | callOptions (callee : Expr) (options : List (NamedArgument Expr)) (span : Span)
  /-- A callee with a block, as in the tried expression of `try f() { ... } catch { ... }`. -/
  | callBlock (callee : Expr) (statements : List Stmt) (span : Span)
  | newOf (operand : Expr) (span : Span)
  | elementaryType (span : Span)
  | mappingType (key value : Expr) (span : Span)
  | functionType (parameters : List (Option (Parameter Expr))) (attributes : List TypeAttribute)
      (returns : List (Option (Parameter Expr))) (span : Span)
  | conditional (condition ifTrue ifFalse : Expr) (span : Span)
  /-- A parenthesised list, other than one bare expression. -/
  | list (slots : List (Option (Parameter Expr))) (span : Span)
  | arrayLiteral (items : List Expr) (span : Span)
  | boolLiteral (value : Bool) (span : Span)
  | numberLiteral (integer exponent : String) (unit : Option Name) (span : Span)
  | rationalLiteral (integer fraction exponent : String) (unit : Option Name) (span : Span)
  | hexNumberLiteral (value : String) (unit : Option Name) (span : Span)
  | stringLiteral (first : LiteralPart) (more : List LiteralPart)
  | hexLiteral (first : LiteralPart) (more : List LiteralPart)
  | addressLiteral (value : String) (span : Span)
  | leading (operator : LeadingOperator) (operand : Expr) (span : Span)
  | signed (sign : Sign) (operand : Expr) (span : Span)
  | trailing (operator : TrailingOperator) (operand : Expr) (span : Span)
  | binary (operator : BinaryOperator) (left right : Expr) (span : Span)
  | assignment (operator : AssignmentOperator) (left right : Expr) (span : Span)

/-- Statements, and what can stand in the place of one after a callee. -/
inductive Stmt where
  | block (statements : List Stmt) (isUnchecked : Bool) (span : Span)
  /-- Named arguments where a block is expected. -/
  | arguments (arguments : List (NamedArgument Expr)) (span : Span)
  | expression (expression : Expr) (span : Span)
  | declaration (declaration : Declaration Expr) (initialValue : Option Expr) (span : Span)
  | ifElse (condition : Expr) (ifTrue : Stmt) (ifFalse : Option Stmt) (span : Span)
  | forLoop (init : Option Stmt) (condition update : Option Expr) (body : Option Stmt)
      (span : Span)
  | whileLoop (condition : Expr) (body : Stmt) (span : Span)
  | doWhile (body : Stmt) (condition : Expr) (span : Span)
  | continueLoop (span : Span)
  | breakLoop (span : Span)
  | returnValue (value : Option Expr) (span : Span)
  | emitEvent (call : Expr) (span : Span)
  | revertWith (error : Option (List Name)) (arguments : List Expr) (span : Span)
  | revertNamed (error : Option (List Name)) (arguments : List (NamedArgument Expr)) (span : Span)
  /-- The parameters and the block of a `returns` clause come together or not at all. -/
  | tryCatch (expression : Expr) (returns : Option (List (Option (Parameter Expr)) × Stmt))
      (clauses : List (CatchClause Expr Stmt)) (span : Span)
  /-- Inline assembly, whose contents are checked but not kept. -/
  | assembly (span : Span)

end

/-- A list of parameters; a slot may be empty. -/
abbrev ParameterList := List (Option (Parameter Expr))

/-- Where an expression is written. A parenthesised one is where its inside is. -/
def Expr.span : Expr → Span
  | .identifier name => name.span
  | .member _ _ s | .index _ _ s | .slice _ _ _ s | .parenthesis _ s | .call _ _ s
  | .namedCall _ _ s | .callOptions _ _ s | .callBlock _ _ s | .newOf _ s | .elementaryType s
  | .mappingType _ _ s | .functionType _ _ _ s | .conditional _ _ _ s | .list _ s
  | .arrayLiteral _ s | .boolLiteral _ s | .numberLiteral _ _ _ s | .rationalLiteral _ _ _ _ s
  | .hexNumberLiteral _ _ s | .addressLiteral _ s | .leading _ _ s | .signed _ _ s
  | .trailing _ _ s | .binary _ _ _ s | .assignment _ _ _ s => s
  | .stringLiteral first _ | .hexLiteral first _ => first.span

/-! ## Definitions -/

/-- A structure with its fields. -/
structure StructDefinition where
  name : Name
  fields : List (Declaration Expr)
  span : Span

/-- An enumeration with its values. -/
structure EnumDefinition where
  name : Name
  values : List Name
  span : Span

/-- A parameter of an event, which may be indexed. -/
structure EventParameter where
  type : Expr
  isIndexed : Bool
  name : Option Name
  span : Span

/-- An event with its parameters. -/
structure EventDefinition where
  name : Name
  parameters : List EventParameter
  isAnonymous : Bool
  span : Span

/-- A parameter of an error. -/
structure ErrorParameter where
  type : Expr
  name : Option Name
  span : Span

/-- An error with its parameters. -/
structure ErrorDefinition where
  name : Name
  parameters : List ErrorParameter
  span : Span

/-- What is written between the type and the name of a state variable. -/
inductive VariableAttribute where
  | visibility (v : Visibility)
  | constant
  | immutable
  /-- An override or a kind of storage. -/
  | other
deriving Repr, DecidableEq, Inhabited

/-- A state variable, or a constant at file level. -/
structure VariableDefinition where
  type : Expr
  attributes : List VariableAttribute
  name : Name
  initialValue : Option Expr
  span : Span

/-- A base of a contract, or a modifier of a function, with its arguments if any are written. -/
structure Base where
  path : List Name
  arguments : Option (List Expr)
  span : Span

/-- What is written after the parameters of a function. -/
inductive FunctionAttribute where
  | visibility (v : Visibility)
  | base (b : Base)
  /-- A mutability, `immutable`, `virtual` or an override. -/
  | other

/-- What a function definition defines. -/
inductive FunctionKind where
  | function
  | constructor
  | fallback
  | receive
  | modifier
deriving Repr, DecidableEq, Inhabited

/-- A function, a modifier or one of the three special kinds. -/
structure FunctionDefinition where
  kind : FunctionKind
  name : Option Name
  parameters : ParameterList
  attributes : List FunctionAttribute
  returns : ParameterList
  body : Option Stmt
  span : Span

/-- A member of a contract. -/
inductive Member where
  | struct (definition : StructDefinition)
  | event (definition : EventDefinition)
  | error (definition : ErrorDefinition)
  | enum (definition : EnumDefinition)
  | stateVariable (definition : VariableDefinition)
  | function (definition : FunctionDefinition)
  | typeDefinition (span : Span)
  | annotated (span : Span)
  | usingFor (span : Span)
  | semicolon

/-- A contract, an interface or a library. -/
structure ContractDefinition where
  kind : Ast.ContractKind
  name : Name
  bases : List Base
  members : List Member
  span : Span

/-- An item of a file. -/
inductive Item where
  | contract (definition : ContractDefinition)
  | pragma (span : Span)
  | importDirective (span : Span)
  /-- What may also stand in a contract. -/
  | member (member : Member)

/-- A whole file. -/
structure SourceUnit where
  items : List Item

end SolidityLint.ParseTree
