import SolidityLint.Grammar.Expression

set_option autoImplicit false

/-! # The grammar of inline assembly

The body of an `assembly` statement is a language of its own. No rule looks into it, so it is only
checked: the readers here take its lexemes and yield nothing. -/

namespace SolidityLint.Grammar

/-- The keywords that are names in assembly. -/
def yulNameKeywords : List String := [
  "return", "revert", "address", "abstract", "anonymous", "as", "assembly", "bool", "byte", "bytes",
  "catch", "calldata", "constant", "constructor", "contract", "do", "else", "enum", "emit", "event",
  "external", "fallback", "indexed", "interface", "internal", "immutable", "import", "is",
  "library", "mapping", "memory", "modifier", "new", "override", "payable", "public", "pragma",
  "private", "pure", "receive", "returns", "storage", "struct", "throw", "try", "using", "view",
  "virtual", "while", "string", "unchecked"]

/-- Can the token be a name in assembly? -/
def isYulName : Token → Bool
  | .identifier _ | .uint _ | .int _ => true
  | .fixed s => yulNameKeywords.contains s
  | _ => false

/-- Is the token a literal in assembly? -/
def isYulLiteral : Token → Bool
  | .fixed s => s == "true" || s == "false"
  | .number .. | .hexNumber _ | .hexString .. | .string .. => true
  | _ => false

/-- Does a token of this kind come next? -/
def isNextKind (kind : Token → Bool) : Reader Bool := do
  return ((← peek?).map kind).getD false

/-- Takes a token of this kind. -/
def expectKind (kind : Token → Bool) : Reader Unit := do
  if ← isNextKind kind then
    let _ ← take
  else unexpected

/-- A name and what is written after it: its arguments, if it is called, or members. -/
def yulAfterName (p : Productions) : Reader Unit := do
  if ← accept "(" then
    let _ ← commaUntil ")" p.yulExpression
  else
    let _ ← repeatWhile (accept ".") (expectKind isYulName)

/-- A literal, with a type or without. -/
def yulLiteral : Reader Unit := do
  expectKind isYulLiteral
  if ← accept ":" then expectKind isYulName

/-- A literal, a name or a call. -/
def yulExpression (p : Productions) : Reader Unit := do
  if ← isNextKind isYulLiteral then yulLiteral
  else
    expectKind isYulName
    yulAfterName p

/-- Names with commas between them, each with a type or without. -/
def yulTypedNames : Reader Unit := do
  let _ ← commaOne (do
    expectKind isYulName
    if ← accept ":" then expectKind isYulName)

/-- Names with full stops between them. -/
def yulPath : Reader Unit := do
  expectKind isYulName
  let _ ← repeatWhile (accept ".") (expectKind isYulName)

/-- A function with its parameters, results and body. -/
def yulFunction (p : Productions) : Reader Unit := do
  expect "function"
  expectKind isYulName
  expect "("
  if !(← isNext ")") then yulTypedNames
  expect ")"
  if ← accept "->" then yulTypedNames
  p.yulBlock

/-- A choice between cases, the last of which may be the default. -/
def yulSwitch (p : Productions) : Reader Unit := do
  expect "switch"
  yulExpression p
  if ← accept "default" then p.yulBlock
  else
    let case : Reader Unit := do
      expect "case"
      yulLiteral
      p.yulBlock
    case
    let _ ← repeatWhile (isNext "case") case
    if ← accept "default" then p.yulBlock

/-- A call, or an assignment to one or more paths. -/
def yulCallOrAssignment (p : Productions) : Reader Unit := do
  expectKind isYulName
  if ← isNext "(" then yulAfterName p
  else
    let _ ← repeatWhile (accept ".") (expectKind isYulName)
    let _ ← repeatWhile (accept ",") yulPath
    expect ":="
    yulExpression p

/-- A statement of assembly. -/
def yulStatement (p : Productions) : Reader Unit := do
  match ← peek? with
  | some (.fixed "\x7b") => p.yulBlock
  | some (.fixed "let") =>
      let _ ← take
      yulTypedNames
      if ← accept ":=" then yulExpression p
  | some (.fixed "if") =>
      let _ ← take
      yulExpression p
      p.yulBlock
  | some (.fixed "for") =>
      let _ ← take
      p.yulBlock
      yulExpression p
      p.yulBlock
      p.yulBlock
  | some (.fixed "switch") => yulSwitch p
  | some (.fixed "function") => yulFunction p
  | some (.fixed "leave") | some (.fixed "break") | some (.fixed "continue") =>
      let _ ← take
  | _ => yulCallOrAssignment p

/-- Does something other than this closing token come next? -/
def isBefore (close : String) : Reader Bool := do
  match ← peek? with
  | some t => return t != .fixed close
  | none => return false

/-- Statements in braces. -/
def yulBlock (p : Productions) : Reader Unit := do
  expect "\x7b"
  let _ ← repeatWhile (isBefore "\x7d") (yulStatement p)
  expect "\x7d"

end SolidityLint.Grammar
