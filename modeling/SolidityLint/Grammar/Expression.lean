import SolidityLint.Grammar.Cursor

set_option autoImplicit false

/-! # The grammar of expressions

Types are read as expressions, since a type may stand wherever an expression may, and where a type
is expected any expression without free operators is taken. What an operand with its postfixes is
(a number, the type of a function, a call, something else) decides what may follow it, and is
carried along as its `Form`.

The productions refer to each other in circles. The circles are cut at `Productions`: each function
here takes the productions for what stands inside brackets or after an operator as an argument, and
the whole grammar is tied together one level at a time, each level for text that is nested one
deeper (see `Grammar.SourceUnit`). -/

namespace SolidityLint.Grammar

open ParseTree

/-- What an operand with its postfixes is. -/
inductive Form where
  /-- A number, with or without a unit. It is no type and cannot be called. -/
  | number
  /-- The type of a function, without postfixes. It cannot be called. -/
  | functionType
  | call
  | plain
deriving Repr, DecidableEq, Inhabited

namespace Form

/-- May this stand where a type is expected? -/
def isType : Form → Bool
  | number => false
  | _ => true

/-- May this be called? -/
def isCallable : Form → Bool
  | number | functionType => false
  | _ => true

end Form

/-- Productions for nested text. -/
structure Productions where
  expression : Reader Expr
  /-- An operand with its leading operators. -/
  operand : Reader Expr
  /-- An operand without leading operators, with its postfixes. -/
  chain : Reader (Expr × Form)
  statement : Reader Stmt
  /-- A block, or named arguments in its place. -/
  block : Reader Stmt
  yulExpression : Reader Unit
  yulBlock : Reader Unit

/-- A type: an operand with postfixes that is no number. -/
def Productions.type (p : Productions) : Reader Expr := do
  let (e, form) ← p.chain
  if form.isType then return e else unexpected

/-! ## Arguments and parameters -/

/-- The name of an argument, which may also be the keyword `address`. -/
def argumentNameOf? : Token → Option String
  | .fixed "address" => some "address"
  | t => nameOf? t

/-- An argument with its name before a colon. -/
def namedArgument (p : Productions) : Reader (NamedArgument Expr) := do
  match ← acceptName argumentNameOf? with
  | some name =>
      expect ":"
      return ⟨name, ← p.expression⟩
  | none => unexpected

/-- A list in parentheses whose slots may be empty; `()` has no slots. -/
def slots {α : Type} (read : Reader α) : Reader (List (Option α)) := do
  expect "("
  if ← accept ")" then return []
  else
    let slot : Reader (Option α) := do
      if (← isNext ",") || (← isNext ")") then return none
      else return some (← read)
    let items ← commaOne slot
    expect ")"
    return items

/-- A type, with a data location and a name if these are written. -/
def parameter (p : Productions) : Reader (Parameter Expr) := do
  let start ← nextStart
  let _ ← acceptAs fun
    | .annotated name => some name
    | _ => none
  let type ← p.type
  let dataLocation ← acceptAs dataLocationOf?
  let name ← acceptName nameOf?
  return ⟨type, dataLocation, name, ← spanFrom start⟩

/-- Parameters in parentheses, some of which may be left out. -/
def parameterList (p : Productions) : Reader ParameterList :=
  slots (parameter p)

/-! ## Types -/

/-- The tokens that are a type by themselves. -/
def isTypeWord : Token → Bool
  | .fixed s => ["bool", "payable", "string", "bytes", "byte"].contains s
  | .uint _ | .int _ | .bytes _ => true
  | _ => false

/-- The type of a mapping, whose keyword comes next. -/
def mappingType (p : Productions) : Reader Expr := do
  let start ← nextStart
  expect "mapping"
  expect "("
  let key ← p.type
  let _ ← acceptName nameOf?
  expect "=>"
  let value ← p.type
  let _ ← acceptName nameOf?
  expect ")"
  return .mappingType key value (← spanFrom start)

/-- The attribute of a function type that a token is. -/
def typeAttributeOf? (t : Token) : Option TypeAttribute :=
  match visibilityOf? t with
  | some v => some (.visibility v)
  | none => if isMutability t || t == .fixed "immutable" then some .other else none

/-- The attributes of a function type, as many as there are. -/
def typeAttributes : Reader (List TypeAttribute) :=
  repeatWhile (do return ((← peek?).bind typeAttributeOf?).isSome) (expectAs typeAttributeOf?)

/-- The type of a function, whose keyword comes next. -/
def functionType (p : Productions) : Reader Expr := do
  let start ← nextStart
  expect "function"
  let parameters ← parameterList p
  let attributes ← typeAttributes
  let returns ←
    if ← accept "returns" then do
      let returns ← parameterList p
      let _ ← typeAttributes
      pure returns
    else pure []
  return .functionType parameters attributes returns (← spanFrom start)

/-! ## Operands -/

/-- A number without the underscores between its digits. -/
def withoutGaps (digits : String) : String :=
  String.ofList (digits.toList.filter (· != '_'))

/-- Adjacent literals of one kind; at least one comes next. -/
def literalParts (choose : Token → Option String) : Reader (LiteralPart × List LiteralPart) := do
  let part : Reader LiteralPart := do
    let start ← nextStart
    let text ← expectAs choose
    return ⟨text, ← spanFrom start⟩
  let first ← part
  return (first, ← repeatWhile (do return ((← peek?).bind choose).isSome) part)

/-- The digits of a hexadecimal string. -/
def hexStringOf? : Token → Option String
  | .hexString _ digits => some digits
  | _ => none

/-- The leading operators. -/
def leadingOf? : Token → Option LeadingOperator
  | .fixed "++" => some .increment
  | .fixed "--" => some .decrement
  | .fixed "!" => some .not
  | .fixed "~" => some .bitNot
  | .fixed "delete" => some .delete
  | _ => none

/-- The sign that an operand may have. -/
def signOf? : Token → Option Sign
  | .fixed "+" => some .plus
  | .fixed "-" => some .minus
  | _ => none

/-- Does an operand that starts with this token have a leading operator, or is it the bare word
    `revert`? Such an operand takes no postfixes of its own and is no type. -/
def startsLeading (t : Token) : Bool :=
  (leadingOf? t).isSome || (signOf? t).isSome || t == .fixed "new" || t == .fixed "revert"

/-- May an operand without leading operators start with this token? -/
def startsPrimary (t : Token) : Bool :=
  match t with
  | .number .. | .rational .. | .hexNumber _ | .string .. | .hexString .. | .addressString .. =>
      true
  | .fixed s => ["address", "mapping", "function", "[", "(", "true", "false", "type"].contains s
      || isTypeWord t || (plainNameOf? t).isSome
  | _ => isTypeWord t || (plainNameOf? t).isSome

/-! ## Postfixes -/

/-- An index or a slice, whose opening bracket has been taken. -/
def afterBracket (p : Productions) (base : Expr) (start : Nat) : Reader Expr := do
  let bound : Reader (Option Expr) := do
    if ← isNext "]" then return none else return some (← p.expression)
  if ← accept "]" then return .index base none (← spanFrom start)
  else
    let low ← if ← isNext ":" then pure none else some <$> p.expression
    if ← accept ":" then
      let high ← bound
      expect "]"
      return .slice base low high (← spanFrom start)
    else
      expect "]"
      return .index base low (← spanFrom start)

/-- The arguments of a call, whose opening parenthesis has been taken. -/
def afterParenthesis (p : Productions) (callee : Expr) (start : Nat) : Reader Expr := do
  if ← accept "\x7b" then
    let arguments ← commaUntil "\x7d" (namedArgument p)
    expect ")"
    return .namedCall callee arguments (← spanFrom start)
  else
    let arguments ← commaUntil ")" p.expression
    return .call callee arguments (← spanFrom start)

/-- Call options or a block after a callee. -/
def afterBrace (p : Productions) (callee : Expr) (start : Nat) : Reader Expr := do
  match ← p.block with
  | .arguments options _ => return .callOptions callee options (← spanFrom start)
  | .block statements _ _ => return .callBlock callee statements (← spanFrom start)
  | _ => unexpected

/-- The member after a full stop, which may also be the keyword `address` or `new`. -/
def memberNameOf? : Token → Option String
  | .fixed "address" => some "address"
  | .fixed "new" => some "new"
  | t => nameOf? t

/-- At most `bound` postfixes of an operand that starts at `start`. -/
def postfixesWithin (p : Productions) (start : Nat) :
    (bound : Nat) → Expr × Form → Reader (Expr × Form)
  | 0, operand => return operand
  | bound + 1, (e, form) => do
      if ← accept "++" then
        postfixesWithin p start bound (.trailing .increment e (← spanFrom start), .plain)
      else if ← accept "--" then
        postfixesWithin p start bound (.trailing .decrement e (← spanFrom start), .plain)
      else if ← accept "[" then
        postfixesWithin p start bound (← afterBracket p e start, .plain)
      else if ← accept "." then
        match ← acceptName memberNameOf? with
        | some member => postfixesWithin p start bound (.member e member (← spanFrom start), .plain)
        | none => unexpected
      else if form.isCallable && (← isNext "(") then
        expect "("
        postfixesWithin p start bound (← afterParenthesis p e start, .call)
      else if form.isCallable && (← isNext "\x7b") then
        postfixesWithin p start bound (← afterBrace p e start, .call)
      else return (e, form)

/-- The postfixes of an operand that starts at `start`. -/
def postfixes (p : Productions) (start : Nat) (operand : Expr × Form) :
    Reader (Expr × Form) := do
  postfixesWithin p start (← get).left.length operand

/-! ## Operators -/

/-- The binary operators by precedence, the loosest first. All associate to the left. -/
def binaryLevels : List (List BinaryOperator) := [
  [.or],
  [.and],
  [.equal, .notEqual],
  [.less, .more, .lessEqual, .moreEqual],
  [.bitOr],
  [.bitXor],
  [.bitAnd],
  [.shiftLeft, .shiftRight],
  [.add, .subtract],
  [.multiply, .divide, .modulo]]

/-- The operator among those that a token is. -/
def binaryOf? (operators : List BinaryOperator) : Token → Option BinaryOperator
  | .fixed s => operators.find? fun o => o.symbol == s
  | _ => none

/-- The operators that assign. -/
def assignmentOperators : List AssignmentOperator :=
  [.assign, .bitOr, .bitXor, .bitAnd, .shiftLeft, .shiftRight, .add, .subtract, .multiply, .divide,
    .modulo]

/-- The assignment operator that a token is. -/
def assignmentOf? : Token → Option AssignmentOperator
  | .fixed s => assignmentOperators.find? fun o => o.symbol == s
  | _ => none

/-- Powers associate to the right: each base, with where it starts, is raised to what follows. -/
def raise (first : Nat × Expr) (stop : Nat) : List (Nat × Expr) → Expr
  | [] => first.2
  | next :: rest => .binary .power first.2 (raise next stop rest) ⟨first.1, stop⟩

/-- At most `bound` more operands of these operators, after `left`, which starts at `start`. -/
def operandsWithin (operators : List BinaryOperator) (read : Reader Expr) (start : Nat) :
    (bound : Nat) → Expr → Reader Expr
  | 0, left => return left
  | bound + 1, left => do
      match ← acceptAs (binaryOf? operators) with
      | some operator =>
          let right ← read
          operandsWithin operators read start bound
            (.binary operator left right (← spanFrom start))
      | none => return left

/-- A power whose first operand starts at `start` and is read by `first`. -/
def powerFrom (p : Productions) (start : Nat) (first : Reader Expr) : Reader Expr := do
  let e ← first
  let more ← repeatWhile (accept "**") (do
    let start ← nextStart
    return (start, ← p.operand))
  return raise (start, e) (← get).lastStop more

/-- An expression of binary operators at these levels, whose first operand starts at `start` and is
    read by `first`. -/
def binaryFrom (p : Productions) :
    List (List BinaryOperator) → (start : Nat) → (first : Reader Expr) → Reader Expr
  | [], start, first => powerFrom p start first
  | operators :: tighter, start, first => do
      let left ← binaryFrom p tighter start first
      let right : Reader Expr := do binaryFrom p tighter (← nextStart) p.operand
      operandsWithin operators right start (← get).left.length left

/-- An expression whose first operand starts at `start` and is read by `first`. -/
def expressionFrom (p : Productions) (start : Nat) (first : Reader Expr) : Reader Expr := do
  let left ← binaryFrom p binaryLevels start first
  match ← acceptAs assignmentOf? with
  | some operator =>
      let right ← p.expression
      return .assignment operator left right (← spanFrom start)
  | none =>
      if ← accept "?" then
        let ifTrue ← p.expression
        expect ":"
        let ifFalse ← p.expression
        return .conditional left ifTrue ifFalse (← spanFrom start)
      else return left

/-! ## Declarations among expressions -/

/-- What is either an expression or the declaration of a name: a type, a data location if any, and
    the name. The two differ only after the type. -/
inductive Declared where
  | expression (e : Expr)
  | name (type : Expr) (dataLocation : Option Ast.DataLocation) (name : Name)

/-- Reads on from a type to the name that it declares, if there is one. -/
def declared (p : Productions) : Reader Declared := do
  let start ← nextStart
  if ((← peek?).map startsLeading).getD false then
    return .expression (← expressionFrom p start p.operand)
  else
    let (e, form) ← p.chain
    if form.isType then
      match ← acceptAs dataLocationOf? with
      | some dataLocation => return .name e (some dataLocation) (← expectName)
      | none =>
          match ← acceptName nameOf? with
          | some name => return .name e none name
          | none => return .expression (← expressionFrom p start (pure e))
    else return .expression (← expressionFrom p start (pure e))

/-- A parenthesised list. One bare expression in parentheses is that expression. -/
def parenthesised (p : Productions) : Reader Expr := do
  let start ← nextStart
  let items ← slots (do
    let start ← nextStart
    match ← declared p with
    | .expression e => return (⟨e, none, none, ← spanFrom start⟩ : Parameter Expr)
    | .name type dataLocation name => return ⟨type, dataLocation, some name, ← spanFrom start⟩)
  match items with
  | [some ⟨e, none, none, _⟩] => return .parenthesis e e.span
  | _ => return .list items (← spanFrom start)

/-! ## Operands and expressions -/

/-- An operand without operators and postfixes. -/
def primary (p : Productions) : Reader (Expr × Form) := do
  let start ← nextStart
  let unit := acceptName plainNameOf?
  match ← peek? with
  | some (.number integer exponent) =>
      let _ ← take
      let unit ← unit
      return (.numberLiteral (withoutGaps integer) (withoutGaps exponent) unit (← spanFrom start),
        .number)
  | some (.rational integer fraction exponent) =>
      let _ ← take
      let unit ← unit
      return (.rationalLiteral (withoutGaps integer) (withoutGaps fraction) (withoutGaps exponent)
        unit (← spanFrom start), .number)
  | some (.hexNumber value) =>
      let _ ← take
      let unit ← unit
      return (.hexNumberLiteral value unit (← spanFrom start), .number)
  | some (.string _ _) =>
      let (first, more) ← literalParts stringOf?
      return (.stringLiteral first more, .plain)
  | some (.hexString _ _) =>
      let (first, more) ← literalParts hexStringOf?
      return (.hexLiteral first more, .plain)
  | some (.addressString _ body) =>
      let _ ← take
      return (.addressLiteral body (← spanFrom start), .plain)
  | some (.fixed "true") =>
      let _ ← take
      return (.boolLiteral true (← spanFrom start), .plain)
  | some (.fixed "false") =>
      let _ ← take
      return (.boolLiteral false (← spanFrom start), .plain)
  | some (.fixed "address") =>
      let _ ← take
      let _ ← accept "payable"
      return (.elementaryType (← spanFrom start), .plain)
  | some (.fixed "mapping") => return (← mappingType p, .plain)
  | some (.fixed "function") => return (← functionType p, .functionType)
  | some (.fixed "[") =>
      let _ ← take
      let items ← commaUntil "]" p.expression
      return (.arrayLiteral items (← spanFrom start), .plain)
  | some (.fixed "(") => return (← parenthesised p, .plain)
  | some (.fixed "type") =>
      -- The word stands only before its arguments.
      let _ ← take
      let name : Name := ⟨"type", ← spanFrom start⟩
      if (← isNext "(") || (← isNext "\x7b") then return (.identifier name, .plain)
      else unexpected
  | some t =>
      if isTypeWord t then
        let _ ← take
        return (.elementaryType (← spanFrom start), .plain)
      else
        match ← acceptName plainNameOf? with
        | some name => return (.identifier name, .plain)
        | none => unexpected
  | none => unexpected

/-- An operand without leading operators, with its postfixes. -/
def chain (p : Productions) : Reader (Expr × Form) := do
  let start ← nextStart
  postfixes p start (← primary p)

/-- An operand with its leading operators. -/
def operand (p : Productions) : Reader Expr := do
  let start ← nextStart
  match ← acceptAs leadingOf? with
  | some operator =>
      let e ← p.operand
      return .leading operator e (← spanFrom start)
  | none =>
      match ← acceptAs signOf? with
      | some sign =>
          let e ← p.operand
          return .signed sign e (← spanFrom start)
      | none =>
          if ← accept "new" then
            let e ← p.operand
            return .newOf e (← spanFrom start)
          else if ← accept "revert" then
            return .identifier ⟨"revert", ← spanFrom start⟩
          else return (← chain p).1

/-- An expression. -/
def expression (p : Productions) : Reader Expr := do
  expressionFrom p (← nextStart) (operand p)

/-- A call: an operand whose last postfix is one. -/
def functionCall (p : Productions) : Reader Expr := do
  let (e, form) ← chain p
  if form = .call then return e else unexpected

end SolidityLint.Grammar
