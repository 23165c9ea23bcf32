import SolidityLint.Ast
import SolidityLint.Location.LineIndex
import SolidityLint.ParseTree
import SolidityLint.Text.Blank

set_option autoImplicit false

/-! # From parse trees to the syntax tree

Lowering keeps what rules look at. It resolves byte offsets to lines and columns, takes the spelling
of types and directives from the source, drops parentheses around a single expression, and turns an
assignment to a list that declares names into a declaration.

What no rule looks at goes: the operand of a sign becomes an `OtherNode`, the bounds of a slice are
dropped, and `new` keeps its operand as a type. -/

namespace SolidityLint

/-- A source text and its lines. -/
structure Source where
  text : String
  index : LineIndex
deriving Repr, Inhabited

namespace Source

/-- A source text with the index of its lines. -/
def ofString (text : String) : Source :=
  ⟨text, .ofString text⟩

/-- The location of a span. -/
def loc (s : Source) (span : ParseTree.Span) : Location :=
  ⟨s.index.position span.start, s.index.position span.stop⟩

/-- The text of a span, if the span lies in the source and neither end cuts a character. -/
def slice? (s : Source) (span : ParseTree.Span) : Option String :=
  let start : String.Pos.Raw := ⟨span.start⟩
  let stop : String.Pos.Raw := ⟨span.stop⟩
  if span.start ≤ span.stop && start.isValid s.text && stop.isValid s.text then
    some (start.extract s.text stop)
  else none

/-- The text of a span with every run of blanks collapsed. What is no text has the empty
    spelling. -/
def spelling (s : Source) (span : ParseTree.Span) : String :=
  Text.collapse ((s.slice? span).getD "")

/-- From the first line to the end of the text. -/
def wholeLocation (s : Source) : Location :=
  ⟨⟨1, 0⟩, s.index.position s.text.utf8ByteSize⟩

end Source

namespace Ast

open ParseTree (Expr Stmt Parameter NamedArgument CatchClause)

/-! ## Types and declarations -/

/-- What kind of type an expression is when it stands for one. -/
def TypeKind.ofExpr : Expr → TypeKind
  | .mappingType .. => .mapping
  | .functionType .. => .function
  | .elementaryType _ => .elementary
  | .index .. => .array
  | _ => .userDefined

/-- An expression as the type that it spells. -/
def TypeName.ofExpr (s : Source) (e : Expr) : TypeName :=
  ⟨s.spelling e.span, .ofExpr e, s.loc e.span⟩

/-- A declaration without attributes. -/
def VariableDeclaration.declare (s : Source) (name : Option ParseTree.Name) (type : Expr)
    (dataLocation : Option DataLocation) (span : ParseTree.Span) : VariableDeclaration where
  name := name.map ParseTree.Name.text
  typeName := .ofExpr s type
  visibility := .unspecified
  dataLocation := dataLocation
  isStateVariable := false
  isConstant := false
  isImmutable := false
  isIndexed := false
  loc := s.loc span

/-- The declaration that a parameter is. -/
def VariableDeclaration.ofParameter (s : Source) (p : Parameter Expr) : VariableDeclaration :=
  .declare s p.name p.type p.dataLocation p.span

/-- The declared parameters of a list, without its empty slots. -/
def VariableDeclaration.ofParameters (s : Source) (parameters : ParseTree.ParameterList) :
    List VariableDeclaration :=
  (parameters.filterMap id).map (.ofParameter s)

/-! ## Expressions -/

/-- A number as it is kept: the exponent follows an `e`, if there is one. -/
def numberText (mantissa exponent : String) : String :=
  if exponent.isEmpty then mantissa else mantissa ++ "e" ++ exponent

/-- The pieces of a literal, joined. -/
def joinedParts (first : ParseTree.LiteralPart) (more : List ParseTree.LiteralPart) : String :=
  String.join (first.text :: more.map ParseTree.LiteralPart.text)

/-- The names of named arguments. -/
def argumentNames (arguments : List (NamedArgument Expr)) : List String :=
  arguments.map fun a => a.name.text

mutual

/-- The syntax tree of an expression. -/
def Expression.lower (s : Source) : Expr → Expression
  | .identifier name => .identifier name.text (s.loc name.span)
  | .member base member span => .memberAccess (Expression.lower s base) member.text (s.loc span)
  | .index base index span =>
      .indexAccess (Expression.lower s base) (Expression.lowerOption s index) (s.loc span)
  | .slice base _ _ span => .indexAccess (Expression.lower s base) none (s.loc span)
  | .parenthesis inner _ => Expression.lower s inner
  | .call callee arguments span =>
      .functionCall (Expression.lower s callee) (Expression.lowerList s arguments) [] (s.loc span)
  | .namedCall callee arguments span =>
      .functionCall (Expression.lower s callee) (Expression.lowerNamed s arguments)
        (argumentNames arguments) (s.loc span)
  | .callOptions callee options span =>
      .callOptions (Expression.lower s callee) (argumentNames options)
        (Expression.lowerNamed s options) (s.loc span)
  | .callBlock callee _ span => .callOptions (Expression.lower s callee) [] [] (s.loc span)
  | .newOf operand span => .newExpression (.ofExpr s operand) (s.loc span)
  | .elementaryType span => .elementaryTypeName (.ofExpr s (.elementaryType span))
  | .mappingType key value span => .elementaryTypeName (.ofExpr s (.mappingType key value span))
  | .functionType parameters attributes returns span =>
      .elementaryTypeName (.ofExpr s (.functionType parameters attributes returns span))
  | .conditional condition ifTrue ifFalse span =>
      .conditional (Expression.lower s condition) (Expression.lower s ifTrue)
        (Expression.lower s ifFalse) (s.loc span)
  | .list slots span => .tuple (Expression.lowerSlots s slots) false (s.loc span)
  | .arrayLiteral items span => .tuple (Expression.lowerItems s items) true (s.loc span)
  | .boolLiteral value span =>
      .literal .bool (if value then "true" else "false") none (s.loc span)
  | .numberLiteral integer exponent unit span =>
      .literal .number (numberText integer exponent) (unit.map ParseTree.Name.text) (s.loc span)
  | .rationalLiteral integer fraction exponent unit span =>
      .literal .number (numberText (integer ++ "." ++ fraction) exponent)
        (unit.map ParseTree.Name.text) (s.loc span)
  | .hexNumberLiteral value unit span =>
      .literal .number value (unit.map ParseTree.Name.text) (s.loc span)
  | .stringLiteral first more => .literal .string (joinedParts first more) none (s.loc first.span)
  | .hexLiteral first more => .literal .hex (joinedParts first more) none (s.loc first.span)
  | .addressLiteral value span => .literal .address value none (s.loc span)
  | .leading operator operand span =>
      .unaryOperation operator.symbol (Expression.lower s operand) true (s.loc span)
  | .signed _ _ span => .other ⟨"Unknown", s.loc span⟩
  | .trailing operator operand span =>
      .unaryOperation operator.symbol (Expression.lower s operand) false (s.loc span)
  | .binary operator left right span =>
      .binaryOperation operator.symbol (Expression.lower s left) (Expression.lower s right)
        (s.loc span)
  | .assignment operator left right span =>
      .binaryOperation operator.symbol (Expression.lower s left) (Expression.lower s right)
        (s.loc span)

/-- An operand that may be missing. -/
def Expression.lowerOption (s : Source) : Option Expr → Option Expression
  | some e => some (Expression.lower s e)
  | none => none

/-- Some operands in a row. -/
def Expression.lowerList (s : Source) : List Expr → List Expression
  | [] => []
  | e :: rest => Expression.lower s e :: Expression.lowerList s rest

/-- The items of an array literal, none of which is missing. -/
def Expression.lowerItems (s : Source) : List Expr → List (Option Expression)
  | [] => []
  | e :: rest => some (Expression.lower s e) :: Expression.lowerItems s rest

/-- The values of named arguments, without their names. -/
def Expression.lowerNamed (s : Source) : List (NamedArgument Expr) → List Expression
  | [] => []
  | ⟨_, e⟩ :: rest => Expression.lower s e :: Expression.lowerNamed s rest

/-- The slots of a list keep what stands for the type. -/
def Expression.lowerSlots (s : Source) : List (Option (Parameter Expr)) → List (Option Expression)
  | [] => []
  | none :: rest => none :: Expression.lowerSlots s rest
  | some ⟨e, _, _, _⟩ :: rest => some (Expression.lower s e) :: Expression.lowerSlots s rest

end

/-! ## Statements -/

/-- Does a slot of a list declare a name? -/
def declaresName (slot : Option (Parameter Expr)) : Bool :=
  match slot with
  | some p => p.name.isSome
  | none => false

/-- A slot of a tuple declaration: what declares no name counts as empty. -/
def declaredSlot (s : Source) (slot : Option (Parameter Expr)) : Option VariableDeclaration :=
  (slot.filter fun p => p.name.isSome).map (.ofParameter s)

/-- An expression that stands as a statement. -/
def Statement.ofExpr (s : Source) (e : Expr) (span : ParseTree.Span) : Statement :=
  match e with
  | .assignment .assign (.list slots _) right _ =>
      if slots.any declaresName then
        .variableDeclaration (slots.map (declaredSlot s)) (some (Expression.lower s right))
          (s.loc span)
      else .expression (Expression.lower s e) (s.loc span)
  | _ => .expression (Expression.lower s e) (s.loc span)

/-- `revert` without the name of an error is a call of that name. -/
def Statement.ofRevert (arguments : List Expression) (loc : Location) : Statement :=
  .expression (.functionCall (.identifier "revert" loc) arguments [] loc) loc

mutual

/-- The syntax tree of a statement. -/
def Statement.lower (s : Source) : Stmt → Statement
  | .block statements isUnchecked span =>
      .block (Statement.lowerList s statements) isUnchecked (s.loc span)
  | .arguments _ span => .other ⟨"Unknown", s.loc span⟩
  | .expression e span => Statement.ofExpr s e span
  | .declaration d initialValue span =>
      .variableDeclaration [some (.declare s (some d.name) d.type d.dataLocation d.span)]
        (Expression.lowerOption s initialValue) (s.loc span)
  | .ifElse condition ifTrue ifFalse span =>
      .ifElse (Expression.lower s condition) (Statement.lower s ifTrue)
        (Statement.lowerOption s ifFalse) (s.loc span)
  | .forLoop init condition update body span =>
      .forLoop (Statement.lowerOption s init) (Expression.lowerOption s condition)
        (Expression.lowerOption s update) (Statement.lowerOption s body) (s.loc span)
  | .whileLoop condition body span =>
      .whileLoop (Expression.lower s condition) (Statement.lower s body) (s.loc span)
  | .doWhile body condition span =>
      .doWhile (Statement.lower s body) (Expression.lower s condition) (s.loc span)
  | .continueLoop span => .other ⟨"ContinueStatement", s.loc span⟩
  | .breakLoop span => .other ⟨"BreakStatement", s.loc span⟩
  | .returnValue value span => .returnValue (Expression.lowerOption s value) (s.loc span)
  | .emitEvent call span => .emitEvent (Expression.lower s call) (s.loc span)
  | .revertWith none arguments span =>
      Statement.ofRevert (Expression.lowerList s arguments) (s.loc span)
  | .revertWith (some error) arguments span =>
      .revertWith (ParseTree.dotted error) (Expression.lowerList s arguments) (s.loc span)
  | .revertNamed error arguments span =>
      .revertWith ((error.map ParseTree.dotted).getD "") (Expression.lowerNamed s arguments)
        (s.loc span)
  | .tryCatch e none clauses span =>
      .tryCatch (Expression.lower s e) [] none (Statement.lowerClauses s clauses) (s.loc span)
  | .tryCatch e (some (parameters, body)) clauses span =>
      .tryCatch (Expression.lower s e) (VariableDeclaration.ofParameters s parameters)
        (some (Statement.lower s body)) (Statement.lowerClauses s clauses) (s.loc span)
  | .assembly span => .other ⟨"InlineAssemblyStatement", s.loc span⟩

/-- A statement that may be missing. -/
def Statement.lowerOption (s : Source) : Option Stmt → Option Statement
  | some t => some (Statement.lower s t)
  | none => none

/-- Some statements in a row. -/
def Statement.lowerList (s : Source) : List Stmt → List Statement
  | [] => []
  | t :: rest => Statement.lower s t :: Statement.lowerList s rest

/-- The bodies of the clauses of a `try` statement. -/
def Statement.lowerClauses (s : Source) : List (CatchClause Expr Stmt) → List Statement
  | [] => []
  | ⟨_, _, body⟩ :: rest => Statement.lower s body :: Statement.lowerClauses s rest

end

/-- The body of a function. What is no block becomes the only statement of one. -/
def Block.ofStatement : Statement → Block
  | .block statements isUnchecked loc => ⟨statements, isUnchecked, loc⟩
  | other => ⟨[other], false, other.loc⟩

/-- The body of a function or of a modifier. -/
def Block.lower (s : Source) (body : Stmt) : Block :=
  .ofStatement (Statement.lower s body)

/-! ## Definitions -/

/-- One base of a contract, its path written with full stops. -/
def InheritanceSpecifier.lower (s : Source) (b : ParseTree.Base) : InheritanceSpecifier :=
  ⟨ParseTree.dotted b.path, Expression.lowerList s (b.arguments.getD []), s.loc b.span⟩

/-- A structure, each field as a declaration. -/
def StructDefinition.lower (s : Source) (d : ParseTree.StructDefinition) : StructDefinition :=
  ⟨d.name.text, d.fields.map fun f => .declare s (some f.name) f.type f.dataLocation f.span,
    s.loc d.span⟩

/-- An enumeration, its values by name. -/
def EnumDefinition.lower (s : Source) (d : ParseTree.EnumDefinition) : EnumDefinition :=
  ⟨d.name.text, d.values.map ParseTree.Name.text, s.loc d.span⟩

/-- An event, each parameter as a declaration that may be indexed. -/
def EventDefinition.lower (s : Source) (d : ParseTree.EventDefinition) : EventDefinition :=
  ⟨d.name.text,
    d.parameters.map fun p =>
      { VariableDeclaration.declare s p.name p.type none p.span with isIndexed := p.isIndexed },
    d.isAnonymous, s.loc d.span⟩

/-- An error, each parameter as a declaration. -/
def ErrorDefinition.lower (s : Source) (d : ParseTree.ErrorDefinition) : ErrorDefinition :=
  ⟨d.name.text, d.parameters.map fun p => .declare s p.name p.type none p.span, s.loc d.span⟩

/-- A variable with one more of its attributes. -/
def VariableDeclaration.withAttribute (v : VariableDeclaration) :
    ParseTree.VariableAttribute → VariableDeclaration
  | .visibility visibility => { v with visibility }
  | .constant => { v with isConstant := true }
  | .immutable => { v with isImmutable := true }
  | .other => v

/-- A state variable, or a constant at file level. Of several visibilities the last counts. -/
def StateVariableDeclaration.lower (s : Source) (isStateVariable : Bool)
    (d : ParseTree.VariableDefinition) : StateVariableDeclaration :=
  let v := { VariableDeclaration.declare s (some d.name) d.type none d.span with isStateVariable }
  ⟨[d.attributes.foldl VariableDeclaration.withAttribute v],
    d.initialValue.map (Expression.lower s), s.loc d.span⟩

/-- Of several visibilities the first counts. -/
def Visibility.ofAttributes (attributes : List ParseTree.FunctionAttribute) : Visibility :=
  (attributes.findSome? fun
    | .visibility v => some v
    | _ => none).getD .unspecified

/-- The kind of a function; a modifier has no kind of its own. -/
def FunctionKind.ofParseTree : ParseTree.FunctionKind → FunctionKind
  | .constructor => .constructor
  | .fallback => .fallback
  | .receive => .receive
  | .function | .modifier => .function

/-- Only a regular function has a name of its own. -/
def FunctionDefinition.lower (s : Source) (isFree : Bool) (d : ParseTree.FunctionDefinition) :
    FunctionDefinition :=
  let kind := FunctionKind.ofParseTree d.kind
  { name := if kind = .function then d.name.map ParseTree.Name.text else none
    kind
    visibility := .ofAttributes d.attributes
    isFree
    parameters := VariableDeclaration.ofParameters s d.parameters
    returnParameters := VariableDeclaration.ofParameters s d.returns
    body := d.body.map (Block.lower s)
    loc := s.loc d.span }

/-- A modifier, which is read like a function. -/
def ModifierDefinition.lower (s : Source) (d : ParseTree.FunctionDefinition) :
    ModifierDefinition :=
  ⟨(d.name.map ParseTree.Name.text).getD "", VariableDeclaration.ofParameters s d.parameters,
    d.body.map (Block.lower s), s.loc d.span⟩

/-- A member of a contract; a lone semicolon is none. -/
def Member.lower? (s : Source) : ParseTree.Member → Option Member
  | .struct d => some (.struct (.lower s d))
  | .event d => some (.event (.lower s d))
  | .error d => some (.error (.lower s d))
  | .enum d => some (.enum (.lower s d))
  | .stateVariable d => some (.stateVariable (.lower s true d))
  | .function d =>
      if d.kind = .modifier then some (.modifier (.lower s d))
      else some (.function (.lower s false d))
  | .typeDefinition span => some (.other ⟨"TypeDefinition", s.loc span⟩)
  | .usingFor span => some (.other ⟨"UsingForDeclaration", s.loc span⟩)
  | .annotated span => some (.other ⟨"Unknown", s.loc span⟩)
  | .semicolon => none

/-- A contract, without the lone semicolons among its members. -/
def ContractDefinition.lower (s : Source) (d : ParseTree.ContractDefinition) :
    ContractDefinition :=
  ⟨d.name.text, d.kind, d.bases.map (.lower s), d.members.filterMap (Member.lower? s),
    s.loc d.span⟩

/-- An item of a file; a lone semicolon is none. -/
def TopLevelItem.lower? (s : Source) : ParseTree.Item → Option TopLevelItem
  | .contract d => some (.contract (.lower s d))
  | .pragma span => some (.pragma ⟨s.spelling span, s.loc span⟩)
  | .importDirective span => some (.importDirective ⟨s.spelling span, s.loc span⟩)
  | .member (.struct d) => some (.struct (.lower s d))
  | .member (.event d) => some (.event (.lower s d))
  | .member (.error d) => some (.error (.lower s d))
  | .member (.enum d) => some (.enum (.lower s d))
  | .member (.stateVariable d) => some (.stateVariable (.lower s false d))
  | .member (.function d) => some (.function (.lower s true d))
  | .member (.typeDefinition span) => some (.other ⟨"TypeDefinition", s.loc span⟩)
  | .member (.usingFor span) => some (.other ⟨"UsingForDeclaration", s.loc span⟩)
  | .member (.annotated span) => some (.other ⟨"Unknown", s.loc span⟩)
  | .member .semicolon => none

/-- The syntax tree of a source file. -/
def SourceUnit.lower (s : Source) (u : ParseTree.SourceUnit) : SourceUnit :=
  ⟨u.items.filterMap (TopLevelItem.lower? s), s.wholeLocation⟩

end Ast

end SolidityLint
