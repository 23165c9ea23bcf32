import SolidityLint.Grammar.Definition
import SolidityLint.Token.Lexer

set_option autoImplicit false

/-! # The grammar of a source file

The directives at the top of a file, the file itself, and the knot that ties the productions
together: `Productions.level n` reads text that is nested at most `n` deep. A level is left only
by taking a lexeme or by entering an operand, so twice the number of lexemes is deep enough for any
text. -/

namespace SolidityLint.Grammar

open ParseTree

/-! ## Directives -/

/-- Can the token stand before a version? -/
def isVersionOperator : Token → Bool
  | .fixed s => ["=", ">", ">=", "<", "<=", "~", "^", "*"].contains s
  | _ => false

/-- Is the token a number? -/
def isNumber : Token → Bool
  | .number .. => true
  | _ => false

/-- Numbers with full stops between them. -/
def version : Reader Unit := do
  expectKind isNumber
  let _ ← repeatWhile (accept ".") (expectKind isNumber)

/-- A version with an operator before it, or a range of versions. -/
def versionComparator : Reader Unit := do
  if ← isNextKind isVersionOperator then
    let _ ← take
    version
  else
    version
    if ← accept "-" then version

/-- One or more requirements; alternatives may be separated by a bar. -/
def versionRequirement : Reader Unit := do
  versionComparator
  let _ ← repeatWhile
    (do return (← accept "||") || (← isNextKind fun t => isVersionOperator t || isNumber t))
    versionComparator

/-- A name, and then a word, a string or the requirement of a version, up to the semicolon. -/
def pragmaDirective : Reader Item := do
  let start ← nextStart
  expect "pragma"
  let _ ← expectName
  match ← peek? with
  | some (.identifier _) | some (.string _ _) =>
      let _ ← take
  | _ => versionRequirement
  let span ← spanFrom start
  expect ";"
  return .pragma span

/-- What is imported from: a string, or names with full stops between them. -/
def importPath : Reader Unit := do
  match ← peek? with
  | some (.string _ _) =>
      let _ ← take
  | _ =>
      let _ ← path

/-- May an item start with this token? -/
def startsItem (t : Token) : Bool :=
  (contractKindOf? t).isSome || startsPrimary t || match t with
    | .fixed s => ["pragma", "import", "enum", "struct", "event", "using", ";"].contains s
    | .annotated _ => true
    | _ => false

/-- The end of an import that names what it takes: the word `from` and a path. Another word in its
    place is found out once the whole directive has been read and the text goes on well. -/
def importFrom (start : Nat) : Reader Item := do
  let word ← expectName
  importPath
  let span ← spanFrom start
  expect ";"
  if word.text = "from" then return .importDirective span
  else if ((← peek?).map startsItem).getD true then
    throw ⟨.expectedFrom word.text, word.span.start⟩
  else unexpected

/-- An import of a file, of names from it or of all of it under a name. -/
def importDirective : Reader Item := do
  let start ← nextStart
  expect "import"
  if ← accept "*" then
    expect "as"
    let _ ← expectName
    importFrom start
  else if ← accept "\x7b" then
    let _ ← commaOne (do
      let _ ← expectName
      if ← accept "as" then
        let _ ← expectName)
    expect "\x7d"
    importFrom start
  else
    importPath
    if ← accept "as" then
      let _ ← expectName
    let span ← spanFrom start
    expect ";"
    return .importDirective span

/-! ## Items -/

/-- An item of a file. -/
def item (p : Productions) : Reader Item := do
  match ← peek? with
  | some (.fixed "pragma") => pragmaDirective
  | some (.fixed "import") => importDirective
  | some t =>
      if (contractKindOf? t).isSome then return .contract (← contractDefinition p)
      else return .member (← member p false)
  | none => unexpected

/-- Items up to the end of the text. -/
def sourceUnit (p : Productions) : Reader SourceUnit := do
  return ⟨← repeatWhile (do return (← peek?).isSome) (item p)⟩

/-! ## The knot -/

/-- Productions that read nothing. -/
def Productions.none : Productions :=
  ⟨unexpected, unexpected, unexpected, unexpected, unexpected, unexpected, unexpected⟩

/-- Productions for text one level deeper than `p` reads. -/
def Productions.next (p : Productions) : Productions :=
  ⟨Grammar.expression p, Grammar.operand p, Grammar.chain p, Grammar.statement p, Grammar.block p,
    Grammar.yulExpression p, Grammar.yulBlock p⟩

/-- Productions for text that is nested at most that deep. -/
def Productions.level : Nat → Productions
  | 0 => .none
  | n + 1 => (Productions.level n).next

end SolidityLint.Grammar

namespace SolidityLint

/-- The parse tree of a source text, or its first fault. Lexical faults come first. -/
def ParseTree.ofSource (source : String) : Except SourceError ParseTree.SourceUnit := do
  let lexemes ← Lexer.lexemes source
  let productions := Grammar.Productions.level (2 * (lexemes.length + 1))
  let (unit, _) ← (Grammar.sourceUnit productions).run ⟨lexemes, 0⟩
  return unit

end SolidityLint
