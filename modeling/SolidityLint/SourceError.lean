import SolidityLint.Location.LineIndex

set_option autoImplicit false

/-! # Faults of a source text

Why a text is not a Solidity source: a stretch of characters that forms no token, or a token that no
program can have at that place. Only the first fault of a text is kept, with the byte offset it is
reported at. -/

namespace SolidityLint

/-- What can be wrong with a source text. -/
inductive SourceFault where
  | endInComment
  | endInString
  | endInHexNumber
  | missingNumber
  | badHexDigit (found : Char)
  | missingExponent
  /-- Characters that start no token. -/
  | unknownText (text : String)
  /-- A token that cannot continue any program. -/
  | unexpectedToken (spelling : String)
  | unexpectedEnd
  /-- An import with another word in the place of `from`. -/
  | expectedFrom (found : String)
deriving Repr, DecidableEq, Inhabited

/-- What is written about a fault. -/
def SourceFault.message : SourceFault → String
  | endInComment => "end of file found in comment"
  | endInString => "end of file found in string literal"
  | endInHexNumber => "end of file found in hex literal string"
  | missingNumber => "missing number"
  | badHexDigit found => "invalid character '" ++ found.toString ++ "' in hex literal string"
  | missingExponent => "missing exponent"
  | unknownText text => "unrecognised token '" ++ text ++ "'"
  | unexpectedToken spelling => "unrecognised token '" ++ spelling ++ "'"
  | unexpectedEnd => "unexpected end of file"
  | expectedFrom found => "'" ++ found ++ "' found where 'from' expected"

/-- A fault and the byte offset it is reported at. -/
structure SourceError where
  fault : SourceFault
  offset : Nat
deriving Repr, DecidableEq, Inhabited

/-- The fault with its line and column. -/
def SourceError.message (index : LineIndex) (e : SourceError) : String :=
  let position := index.position e.offset
  e.fault.message ++ " (line: " ++ toString position.line ++ ", column: "
    ++ toString position.column ++ ")"

end SolidityLint
