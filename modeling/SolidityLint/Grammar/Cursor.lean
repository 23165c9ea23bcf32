import SolidityLint.ParseTree
import SolidityLint.SourceError
import SolidityLint.Token

set_option autoImplicit false

/-! # Reading lexemes

A reader takes lexemes from the front of what is left and either yields a value or stops at a fault.
There is no going back: the grammar is written so that one lexeme of lookahead, rarely two, decides
what comes next, and a lexeme is taken only when some program goes on with it. So the lexeme at
which a reader stops is the first one that no program can have at that place. -/

namespace SolidityLint.Grammar

open ParseTree

/-- The lexemes that are left, and where the last one taken ended. -/
structure Cursor where
  left : List Lexeme
  lastStop : Nat
deriving Repr, Inhabited

/-- A reader takes lexemes from the front of what is left, or fails at one of them. -/
abbrev Reader := StateT Cursor (Except SourceError)

/-! ## Looking -/

/-- The next token, if any is left. -/
def peek? : Reader (Option Token) := do
  return (← get).left.head?.map Lexeme.token

/-- The token after the next. -/
def peekSecond? : Reader (Option Token) := do
  return (← get).left[1]?.map Lexeme.token

/-- Is the next token that keyword or operator? -/
def isNext (spelling : String) : Reader Bool := do
  return (← peek?) == some (.fixed spelling)

/-- Where the next lexeme starts. -/
def nextStart : Reader Nat := do
  let c ← get
  return (c.left.head?.map Lexeme.start).getD c.lastStop

/-- What has been read since `start`. -/
def spanFrom (start : Nat) : Reader Span := do
  return ⟨start, (← get).lastStop⟩

/-! ## Taking -/

/-- Stops at the next lexeme, which cannot stand there, or at the end. -/
def unexpected {α : Type} : Reader α := do
  let c ← get
  match c.left with
  | l :: _ => throw ⟨.unexpectedToken l.token.spelling, l.start⟩
  | [] => throw ⟨.unexpectedEnd, c.lastStop⟩

/-- Takes the next lexeme. -/
def take : Reader Lexeme := do
  let c ← get
  match c.left with
  | l :: rest =>
      set (Cursor.mk rest l.stop)
      return l
  | [] => unexpected

/-- Takes the keyword or operator if it comes next, and tells whether it did. -/
def accept (spelling : String) : Reader Bool := do
  if ← isNext spelling then
    let _ ← take
    return true
  else return false

/-- Takes the keyword or operator, which has to come next. -/
def expect (spelling : String) : Reader Unit := do
  if !(← accept spelling) then unexpected

/-- Takes the next token if `choose` has a value for it. -/
def acceptAs {α : Type} (choose : Token → Option α) : Reader (Option α) := do
  match (← peek?).bind choose with
  | some a =>
      let _ ← take
      return some a
  | none => return none

/-- Takes the next token, for which `choose` has to have a value. -/
def expectAs {α : Type} (choose : Token → Option α) : Reader α := do
  match ← acceptAs choose with
  | some a => return a
  | none => unexpected

/-! ## Repeating -/

/-- Reads as long as `more` holds, at most `bound` times. -/
def repeatWithin {α : Type} (more : Reader Bool) (read : Reader α) : (bound : Nat) → Reader (List α)
  | 0 => return []
  | bound + 1 => do
      if ← more then
        let a ← read
        return a :: (← repeatWithin more read bound)
      else return []

/-- Reads as long as `more` holds. Every round takes a lexeme, so there are no more rounds than
    lexemes. -/
def repeatWhile {α : Type} (more : Reader Bool) (read : Reader α) : Reader (List α) := do
  repeatWithin more read (← get).left.length

/-- One or more, with commas between them. -/
def commaOne {α : Type} (read : Reader α) : Reader (List α) := do
  let first ← read
  return first :: (← repeatWhile (accept ",") read)

/-- None or more up to a closing token, with commas between them; the closing token is taken. -/
def commaUntil {α : Type} (close : String) (read : Reader α) : Reader (List α) := do
  if ← accept close then return []
  else
    let items ← commaOne read
    expect close
    return items

/-! ## Names -/

/-- The keywords that may also be names, apart from `revert`. -/
def nameKeywords : List String := ["switch", "leave", "case", "default"]

/-- The name that a token is, where `revert` is none. -/
def plainNameOf? : Token → Option String
  | .identifier name => some name
  | .fixed s => if nameKeywords.contains s then some s else none
  | _ => none

/-- The name that a token is. -/
def nameOf? : Token → Option String
  | .fixed "revert" => some "revert"
  | t => plainNameOf? t

/-- Takes the next token as a name, if `choose` finds one in it. -/
def acceptName (choose : Token → Option String) : Reader (Option Name) := do
  let start ← nextStart
  match ← acceptAs choose with
  | some text => return some ⟨text, ← spanFrom start⟩
  | none => return none

/-- Takes a name. -/
def expectName : Reader Name := do
  match ← acceptName nameOf? with
  | some name => return name
  | none => unexpected

/-- Names with full stops between them. -/
def path : Reader (List Name) := do
  let first ← expectName
  return first :: (← repeatWhile (accept ".") expectName)

/-! ## Words that several productions share -/

/-- The visibility that a keyword stands for. -/
def visibilityOf? : Token → Option Ast.Visibility
  | .fixed "public" => some .pub
  | .fixed "external" => some .external
  | .fixed "internal" => some .internal
  | .fixed "private" => some .priv
  | _ => none

/-- The data location that a keyword stands for. -/
def dataLocationOf? : Token → Option Ast.DataLocation
  | .fixed "memory" => some .memory
  | .fixed "storage" => some .storage
  | .fixed "calldata" => some .calldata
  | _ => none

/-- Does the keyword say what a function may change? -/
def isMutability : Token → Bool
  | .fixed s => ["pure", "constant", "view", "payable"].contains s
  | _ => false

/-- The body of a string literal. -/
def stringOf? : Token → Option String
  | .string _ body => some body
  | _ => none

/-- Takes a string literal. -/
def expectString : Reader LiteralPart := do
  let start ← nextStart
  let text ← expectAs stringOf?
  return ⟨text, ← spanFrom start⟩

end SolidityLint.Grammar
