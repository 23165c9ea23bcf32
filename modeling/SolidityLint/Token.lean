set_option autoImplicit false

/-! # Tokens

What the lexer makes of a source text. Keywords and operators have one spelling each and are kept as
that spelling; the words `error`, `from`, `global`, `this`, `fixed` and `var` are identifiers. -/

namespace SolidityLint

/-- The tokens that a source text is cut into. -/
inductive Token where
  /-- A keyword or an operator. -/
  | fixed (spelling : String)
  | identifier (name : String)
  /-- A word after an at sign. -/
  | annotated (name : String)
  /-- A string literal; its body is kept as written between the quotes. -/
  | string (isUnicode : Bool) (body : String)
  /-- A literal such as `hex"00_ff"`: as written, and its digits. -/
  | hexString (spelling digits : String)
  /-- A literal such as `address"..."`: as written, and what is between the quotes. -/
  | addressString (spelling body : String)
  | number (integer exponent : String)
  | rational (integer fraction exponent : String)
  | hexNumber (spelling : String)
  | uint (bits : Nat)
  | int (bits : Nat)
  /-- A byte array of fixed size. -/
  | bytes (size : Nat)
deriving Repr, DecidableEq, Inhabited

namespace Token

/-- The keywords, besides the sized types. -/
def keywords : List String := [
  "abstract", "address", "anonymous", "as", "assembly", "bool", "break", "byte", "bytes",
  "calldata", "case", "catch", "constant", "constructor", "continue", "contract", "default",
  "delete", "do", "else", "emit", "enum", "event", "external", "fallback", "false", "for",
  "function", "if", "immutable", "import", "indexed", "instance", "interface", "internal", "is",
  "leave", "let", "library", "mapping", "memory", "modifier", "new", "override", "payable",
  "persistent", "pragma", "private", "public", "pure", "receive", "return", "returns", "revert",
  "storage", "string", "struct", "switch", "temporary", "throw", "true", "try", "type", "unchecked",
  "using", "view", "virtual", "while"]

/-- The operators, each before those that it starts with. -/
def operators : List String := [
  "<<=", ">>=",
  "==", "=>", "!=", "|=", "||", "&=", "&&", "^=", "+=", "++", "-=", "--", "->", "*=", "**", "/=",
  "%=", "<=", "<<", ">=", ">>", ":=",
  ";", ",", "(", ")", "\x7b", "\x7d", "[", "]", "~", "=", "!", "|", "&", "^", "+", "-", "*", "/",
  "%", "<", ">", ".", ":", "?"]

/-- The sizes of integers. -/
def integerSizes : List Nat :=
  (List.range 32).map fun i => 8 * (i + 1)

/-- The sizes of byte arrays of fixed size. -/
def byteSizes : List Nat :=
  (List.range 32).map (· + 1)

/-- The types with a size in their name; without one, an integer has 256 bits. -/
def sizedTypes : List (String × Token) :=
  [("uint", .uint 256), ("int", .int 256)]
    ++ integerSizes.map (fun n => ("uint" ++ toString n, .uint n))
    ++ integerSizes.map (fun n => ("int" ++ toString n, .int n))
    ++ byteSizes.map (fun n => ("bytes" ++ toString n, .bytes n))

/-- The token of a word that starts no literal. -/
def ofWord (word : String) : Token :=
  if keywords.contains word then .fixed word
  else (sizedTypes.lookup word).getD (.identifier word)

/-- The exponent of a number, as error messages show it. -/
def exponentSpelling (exponent : String) : String :=
  if exponent.isEmpty then "" else "e" ++ exponent

/-- A token as error messages show it. -/
def spelling : Token → String
  | fixed s => s
  | identifier name => name
  | annotated name => "@" ++ name
  | string isUnicode body => (if isUnicode then "unicode" else "") ++ "\"" ++ body ++ "\""
  | hexString s _ => s
  | addressString s _ => s
  | number integer exponent => integer ++ exponentSpelling exponent
  | rational integer fraction exponent => integer ++ "." ++ fraction ++ exponentSpelling exponent
  | hexNumber s => s
  | uint bits => "uint" ++ toString bits
  | int bits => "int" ++ toString bits
  | bytes size => "bytes" ++ toString size

end Token

/-- A token and the bytes of the source that it covers. -/
structure Lexeme where
  token : Token
  start : Nat
  stop : Nat
deriving Repr, DecidableEq, Inhabited

end SolidityLint
