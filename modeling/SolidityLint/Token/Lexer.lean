import SolidityLint.SourceError
import SolidityLint.Text.Blank
import SolidityLint.Text.IdentifierCharacters
import SolidityLint.Token

set_option autoImplicit false

/-! # The lexer

A source text is cut from left to right. `Lexer.cut` looks at the start of a non-empty text and says
what stands there and how many characters it takes beyond the first, so that every cut takes at
least one character and the loop ends.

A version requirement (`pragma solidity ^0.8.0;`) is lexed by its own rule: from the word after
`pragma` to the next semicolon a number is digits only, and a full stop is always a token of its
own. -/

namespace SolidityLint.Lexer

/-! ## Character classes -/

/-- One of the ten digits. -/
def isDigit (c : Char) : Bool :=
  '0' ≤ c && c ≤ '9'

/-- A digit, or a letter from `a` to `f` in either case. -/
def isHexDigit (c : Char) : Bool :=
  isDigit c || ('a' ≤ c && c ≤ 'f') || ('A' ≤ c && c ≤ 'F')

/-- A digit, or the underscore that may stand between digits. -/
def isDigitOrGap (c : Char) : Bool :=
  isDigit c || c == '_'

/-- Can the character start a word? -/
def isWordStart (c : Char) : Bool :=
  c == '_' || c == '$' || Text.isIdentifierStart c

/-- Can the character go on with a word? -/
def isWordCharacter (c : Char) : Bool :=
  c == '$' || Text.isIdentifierContinue c

/-- Can the character open a string literal? -/
def isQuote (c : Char) : Bool :=
  c == '"' || c == '\''

/-! ## What a text starts with -/

/-- What stands at the start of a text. -/
inductive Item where
  /-- A blank or a comment. -/
  | skip
  | token (t : Token)
  /-- A fault, and how many characters after the start it is reported. -/
  | fault (f : SourceFault) (distance : Nat)
deriving Repr

/-- An item, and how many characters it takes beyond the first. -/
structure Cut where
  item : Item
  extra : Nat
deriving Repr

/-- The characters before the first quote that no backslash protects; none if there is no such
    quote. -/
def stringBody? (quote : Char) : List Char → Option (List Char)
  | [] => none
  | '\\' :: c :: rest => (stringBody? quote rest).map fun body => '\\' :: c :: body
  | c :: rest => if c = quote then some [] else (stringBody? quote rest).map (c :: ·)

/-- The number of characters up to and with the end of a block comment, after its opening. -/
def commentLength? : List Char → Option Nat
  | [] => none
  | '*' :: '/' :: _ => some 2
  | _ :: rest => (commentLength? rest).map (· + 1)

/-- A string literal. `before` characters, the opening quote included, precede its body. -/
def cutString (isUnicode : Bool) (quote : Char) (before : Nat) (text : List Char) : Cut :=
  match stringBody? quote text with
  | some body => ⟨.token (.string isUnicode (String.ofList body)), before + body.length⟩
  | none => ⟨.fault .endInString 0, 0⟩

/-- A literal `hex"..."`: digits and underscores up to the closing quote. -/
def cutHexString (quote : Char) (text : List Char) : Cut :=
  let body := text.takeWhile fun c => isHexDigit c || c == '_'
  match text.drop body.length with
  | [] => ⟨.fault .endInString 0, 0⟩
  | c :: _ =>
      if c = quote then
        ⟨.token (.hexString (String.ofList ("hex".toList ++ quote :: body ++ [quote]))
          (String.ofList (body.filter (· != '_')))), 4 + body.length⟩
      else ⟨.fault (.badHexDigit c) (4 + body.length), 0⟩

/-- A literal `address"..."`: anything up to the closing quote. -/
def cutAddressString (quote : Char) (text : List Char) : Cut :=
  let body := text.takeWhile (· != quote)
  if body.length = text.length then ⟨.fault .endInString 0, 0⟩
  else
    ⟨.token (.addressString (String.ofList ("address".toList ++ quote :: body ++ [quote]))
      (String.ofList body)), 8 + body.length⟩

/-- A word, or a literal that starts with one. -/
def cutWord (first : Char) (text : List Char) : Cut :=
  let later := text.takeWhile isWordCharacter
  let word := String.ofList (first :: later)
  let plain : Cut := ⟨.token (.ofWord word), later.length⟩
  match text.drop later.length with
  | quote :: rest =>
      if isQuote quote then
        match word with
        | "unicode" => cutString true quote 8 rest
        | "hex" => cutHexString quote rest
        | "address" => cutAddressString quote rest
        | _ => plain
      else plain
  | [] => plain

/-- The exponent of a number: after `e` or `E` any number of minus signs, then digits. Returns the
    exponent without its mark and the number of characters taken; none when no digit follows. -/
def exponent? : List Char → Option (List Char × Nat)
  | c :: rest =>
      if c = 'e' || c = 'E' then
        let signs := rest.takeWhile (· == '-')
        let digits := (rest.drop signs.length).takeWhile isDigitOrGap
        if digits.isEmpty then none else some (signs ++ digits, 1 + signs.length + digits.length)
      else some ([], 0)
  | [] => some ([], 0)

/-- Ends a number whose integer and fraction, if any, have been read and took `taken` characters
    beyond the first. -/
def cutExponent (integer : List Char) (fraction : Option (List Char)) (taken : Nat)
    (text : List Char) : Cut :=
  match exponent? text with
  | none => ⟨.fault .missingExponent 0, 0⟩
  | some (exponent, length) =>
      let token := match fraction with
        | some f => .rational (String.ofList integer) (String.ofList f) (String.ofList exponent)
        | none => .number (String.ofList integer) (String.ofList exponent)
      ⟨.token token, taken + length⟩

/-- A decimal number that starts with the digit `first`. -/
def cutDecimal (inVersion : Bool) (first : Char) (text : List Char) : Cut :=
  let later := text.takeWhile isDigitOrGap
  let integer := first :: later
  if inVersion then ⟨.token (.number (String.ofList integer) ""), later.length⟩
  else match text.drop later.length with
    | '.' :: d :: rest =>
        if isDigit d then
          let fraction := d :: rest.takeWhile isDigitOrGap
          cutExponent integer (some fraction) (later.length + 1 + fraction.length)
            (rest.drop (fraction.length - 1))
        else cutExponent integer none later.length ('.' :: d :: rest)
    | rest => cutExponent integer none later.length rest

/-- A number that starts with the digit `first`. -/
def cutNumber (inVersion : Bool) (first : Char) (text : List Char) : Cut :=
  match first, text with
  | '0', 'x' :: rest =>
      match rest with
      | [] => ⟨.fault .endInHexNumber 0, 0⟩
      | d :: more =>
          if isHexDigit d then
            let digits := d :: more.takeWhile fun c => isHexDigit c || c == '_'
            ⟨.token (.hexNumber (String.ofList ('0' :: 'x' :: digits))), 1 + digits.length⟩
          else ⟨.fault .missingNumber 0, 0⟩
  | _, _ => cutDecimal inVersion first text

/-- A comment, or a division. -/
def cutSlash : List Char → Option Cut
  | '/' :: rest =>
      some ⟨.skip, 1 + (rest.takeWhile fun c => c != '\n' && c != '\r').length⟩
  | '*' :: rest =>
      match commentLength? rest with
      | some n => some ⟨.skip, 1 + n⟩
      | none => some ⟨.fault .endInComment 0, 0⟩
  | _ => none

/-- The longest operator at the start of a text. -/
def operator? (text : List Char) : Option String :=
  Token.operators.find? fun o => o.toList.isPrefixOf text

/-- What the text `first :: text` starts with. -/
def cut (inVersion : Bool) (first : Char) (text : List Char) : Cut :=
  if isWordStart first then cutWord first text
  else if isQuote first then cutString false first 1 text
  else if isDigit first then cutNumber inVersion first text
  else if Text.isBlank first then ⟨.skip, 0⟩
  else if first = '@' then
    let word := text.takeWhile isWordCharacter
    if word.isEmpty then ⟨.fault (.unknownText "@") 0, 0⟩
    else ⟨.token (.annotated (String.ofList word)), word.length⟩
  else
    match (if first = '/' then cutSlash text else none) with
    | some c => c
    | none =>
        match first, text with
        | '.', d :: rest =>
            if isDigit d && !inVersion then
              let fraction := d :: rest.takeWhile isDigitOrGap
              cutExponent [] (some fraction) fraction.length (rest.drop (fraction.length - 1))
            else ⟨.token (.fixed "."), 0⟩
        | _, _ =>
            match operator? (first :: text) with
            | some o => ⟨.token (.fixed o), o.length - 1⟩
            | none =>
                let bad := first :: text.takeWhile fun c => !Text.isBlank c
                ⟨.fault (.unknownText (String.ofList bad)) 0, 0⟩

/-! ## The loop -/

/-- Where the lexer is with respect to a version requirement. -/
inductive Mode where
  | outside
  /-- Right after `pragma`. -/
  | afterPragma
  | inVersion
deriving Repr, DecidableEq

/-- The mode after a token. -/
def Mode.next : Mode → Token → Mode
  | inVersion, t => if t = .fixed ";" then outside else inVersion
  | afterPragma, .identifier _ => inVersion
  | _, t => if t = .fixed "pragma" then afterPragma else outside

/-- The number of bytes of a text. -/
def byteLength : List Char → Nat
  | [] => 0
  | c :: rest => c.utf8Size + byteLength rest

/-- The lexemes of a text that starts at byte `offset`. -/
def lexemesFrom (mode : Mode) (offset : Nat) (text : List Char) :
    Except SourceError (List Lexeme) :=
  match text with
  | [] => .ok []
  | first :: rest =>
      let c := cut (mode == .inVersion) first rest
      let stop := offset + byteLength (first :: rest.take c.extra)
      match c.item with
      | .skip => lexemesFrom mode stop (rest.drop c.extra)
      | .token t => do
          return ⟨t, offset, stop⟩ :: (← lexemesFrom (mode.next t) stop (rest.drop c.extra))
      | .fault f distance =>
          .error ⟨f, offset + byteLength ((first :: rest).take distance)⟩
termination_by text.length
decreasing_by all_goals (simp only [List.length_cons, List.length_drop]; omega)

/-- The lexemes of a source text, or its first lexical fault. -/
def lexemes (source : String) : Except SourceError (List Lexeme) :=
  lexemesFrom .outside 0 source.toList

end SolidityLint.Lexer
