import SolidityLint.Grammar.Expression
import SolidityLint.Grammar.Yul

set_option autoImplicit false

/-! # The grammar of statements

An `else` belongs to the nearest `if` that can take it. The span of a statement leaves out the
semicolon that ends it, and the span of a compound statement ends where its last part ends,
semicolon included. -/

namespace SolidityLint.Grammar

open ParseTree

/-! ## Blocks -/

/-- The statements between braces. -/
def statements (p : Productions) : Reader (List Stmt) := do
  expect "\x7b"
  let body ← repeatWhile (isBefore "\x7d") p.statement
  expect "\x7d"
  return body

/-- A block, or named arguments in its place: these start with a name and a colon. -/
def block (p : Productions) : Reader Stmt := do
  let start ← nextStart
  let left := (← get).left
  let isArguments := ((left[1]?.map Lexeme.token).bind argumentNameOf?).isSome
    && left[2]?.map Lexeme.token == some (.fixed ":")
  if isArguments && (← isNext "\x7b") then
    expect "\x7b"
    let arguments ← commaOne (namedArgument p)
    expect "\x7d"
    return .arguments arguments (← spanFrom start)
  else
    let body ← statements p
    return .block body false (← spanFrom start)

/-! ## Simple statements -/

/-- A declaration with or without an initial value, or an expression. -/
def simpleStatement (p : Productions) : Reader Stmt := do
  let start ← nextStart
  match ← declared p with
  | .expression e => return .expression e (← spanFrom start)
  | .name type dataLocation name =>
      let declaration : Declaration Expr := ⟨type, dataLocation, name, ← spanFrom start⟩
      let initialValue ← if ← accept "=" then some <$> p.expression else pure none
      return .declaration declaration initialValue (← spanFrom start)

/-- Ends a statement whose span has been read. -/
def endWithSemicolon (s : Stmt) : Reader Stmt := do
  expect ";"
  return s

/-- A `revert` statement, or an expression that starts with the bare word. -/
def revertStatement (p : Productions) : Reader Stmt := do
  let start ← nextStart
  expect "revert"
  let word : Name := ⟨"revert", ← spanFrom start⟩
  let isNamed := ((← peek?).bind nameOf?).isSome
  if isNamed || (← isNext "(") then
    let error ← if isNamed then some <$> path else pure none
    expect "("
    if ← accept "\x7b" then
      let arguments ← commaUntil "\x7d" (namedArgument p)
      expect ")"
      endWithSemicolon (.revertNamed error arguments (← spanFrom start))
    else
      let arguments ← commaUntil ")" p.expression
      endWithSemicolon (.revertWith error arguments (← spanFrom start))
  else
    let e ← expressionFrom p start (pure (.identifier word))
    endWithSemicolon (.expression e (← spanFrom start))

/-! ## Compound statements -/

/-- An expression in parentheses, after a keyword. -/
def condition (p : Productions) : Reader Expr := do
  expect "("
  let e ← p.expression
  expect ")"
  return e

/-- What `read` reads, unless the closing token comes next. -/
def unlessNext {α : Type} (close : String) (read : Reader α) : Reader (Option α) := do
  if ← isNext close then return none else return some (← read)

/-- A loop. Each of its three parts may be missing, and a semicolon may stand for its body. -/
def forStatement (p : Productions) : Reader Stmt := do
  let start ← nextStart
  expect "for"
  expect "("
  let init ← unlessNext ";" (simpleStatement p)
  expect ";"
  let condition ← unlessNext ";" p.expression
  expect ";"
  let update ← unlessNext ")" p.expression
  expect ")"
  if ← isNext ";" then
    endWithSemicolon (.forLoop init condition update none (← spanFrom start))
  else
    let body ← p.statement
    return .forLoop init condition update (some body) (← spanFrom start)

/-- A clause of a `try` statement, with a parameter or without. -/
def catchClause (p : Productions) : Reader (CatchClause Expr Stmt) := do
  expect "catch"
  let name ← acceptName nameOf?
  let parameter ←
    if name.isSome || (← isNext "(") then do
      expect "("
      let parameter ← parameter p
      expect ")"
      pure (some parameter)
    else pure none
  return ⟨name, parameter, ← p.block⟩

/-- A call that may fail, with its clauses. -/
def tryStatement (p : Productions) : Reader Stmt := do
  let start ← nextStart
  expect "try"
  let callStart ← nextStart
  let e ←
    if ← accept "new" then do
      let call ← functionCall p
      pure (.newOf call (← spanFrom callStart))
    else functionCall p
  let returns ←
    if ← accept "returns" then do
      let parameters ← parameterList p
      pure (some (parameters, ← p.block))
    else pure none
  let first ← catchClause p
  let more ← repeatWhile (isNext "catch") (catchClause p)
  return .tryCatch e returns (first :: more) (← spanFrom start)

/-- Inline assembly, of which only the extent is kept. -/
def assemblyStatement (p : Productions) : Reader Stmt := do
  let start ← nextStart
  expect "assembly"
  let _ ← acceptAs stringOf?
  if ← accept "(" then
    let _ ← commaOne expectString
    expect ")"
  yulBlock p
  return .assembly (← spanFrom start)

/-- A statement. -/
def statement (p : Productions) : Reader Stmt := do
  let start ← nextStart
  match ← peek? with
  | some (.fixed "\x7b") => block p
  | some (.fixed "unchecked") =>
      let _ ← take
      let body ← statements p
      return .block body true (← spanFrom start)
  | some (.fixed "if") =>
      let _ ← take
      let condition ← condition p
      let ifTrue ← p.statement
      let ifFalse ← if ← accept "else" then some <$> p.statement else pure none
      return .ifElse condition ifTrue ifFalse (← spanFrom start)
  | some (.fixed "for") => forStatement p
  | some (.fixed "while") =>
      let _ ← take
      let condition ← condition p
      let body ← p.statement
      return .whileLoop condition body (← spanFrom start)
  | some (.fixed "do") =>
      let _ ← take
      let body ← p.statement
      expect "while"
      let condition ← condition p
      endWithSemicolon (.doWhile body condition (← spanFrom start))
  | some (.fixed "continue") =>
      let _ ← take
      endWithSemicolon (.continueLoop (← spanFrom start))
  | some (.fixed "break") =>
      let _ ← take
      endWithSemicolon (.breakLoop (← spanFrom start))
  | some (.fixed "return") =>
      let _ ← take
      let value ← unlessNext ";" p.expression
      endWithSemicolon (.returnValue value (← spanFrom start))
  | some (.fixed "emit") =>
      let _ ← take
      let call ← functionCall p
      endWithSemicolon (.emitEvent call (← spanFrom start))
  | some (.fixed "revert") => revertStatement p
  | some (.fixed "try") => tryStatement p
  | some (.fixed "assembly") => assemblyStatement p
  | _ => endWithSemicolon (← simpleStatement p)

end SolidityLint.Grammar
