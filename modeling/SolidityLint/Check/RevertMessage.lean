import SolidityLint.Ast
import SolidityLint.Context

set_option autoImplicit false

/-! # Revert messages

`require` and `revert` with a message cost more than a custom error, and a message that does not fit
one storage word costs more still. The length of a message is the number of bytes it has when the
program runs, so the escapes of its spelling are decoded first. -/

namespace SolidityLint

open Ast

namespace Check

/-! ## The length of a string literal -/

/-- The value of a hexadecimal digit. -/
def hexDigitValue? (c : Char) : Option Nat :=
  if '0' ≤ c && c ≤ '9' then some (c.toNat - '0'.toNat)
  else if 'a' ≤ c && c ≤ 'f' then some (c.toNat - 'a'.toNat + 10)
  else if 'A' ≤ c && c ≤ 'F' then some (c.toNat - 'A'.toNat + 10)
  else none

/-- The number that hexadecimal digits spell after the digits of `value`. -/
def hexNumberFrom? (value : Nat) : List Char → Option Nat
  | [] => some value
  | c :: rest => do hexNumberFrom? (value * 16 + (← hexDigitValue? c)) rest

/-- The number that one or more hexadecimal digits spell; a plus sign may stand before them. -/
def hexNumber? : List Char → Option Nat
  | '+' :: c :: rest => hexNumberFrom? 0 (c :: rest)
  | c :: rest => if c = '+' then none else hexNumberFrom? 0 (c :: rest)
  | [] => none

/-- The bytes that a code point takes. What is no code point takes as many as the character that
    stands in for it. -/
def codePointLength (digits : List Char) : Nat :=
  match hexNumber? digits with
  | some code => if code.isValidChar then (Char.ofNat code).utf8Size else 3
  | none => 3

/-- The number of bytes of a string literal when the program runs. `\xNN` is one byte, `\uNNNN` a
    code point, and a backslash before a line break stands for nothing. -/
def decodedLength : List Char → Nat
  | [] => 0
  | '\\' :: 'x' :: rest => 1 + decodedLength (rest.drop 2)
  | '\\' :: 'u' :: rest => codePointLength (rest.take 4) + decodedLength (rest.drop 4)
  | '\\' :: '\r' :: '\n' :: rest => decodedLength rest
  | '\\' :: '\r' :: rest => decodedLength rest
  | '\\' :: '\n' :: rest => decodedLength rest
  | '\\' :: _ :: rest => 1 + decodedLength rest
  | ['\\'] => 0
  | c :: rest => c.utf8Size + decodedLength rest
termination_by text => text.length

/-- The length from which on a message does not fit one storage word. -/
def longMessage : Nat := 32

/-- The text for a message of that length. -/
def longMessageAdvice (length : Nat) : String :=
  "use a message shorter than " ++ toString longMessage ++ " bytes (this one is "
    ++ toString length ++ ")"

end Check

namespace Context

open Check

/-! ## The check -/

/-- The message of a `require` or `revert`, if it is given, has to be short. One that is no string
    literal cannot be judged. -/
def checkMessageLength (c : Context) : Option Expression → Context
  | none => c
  | some (.literal .string value _ loc) =>
      let length := decodedLength value.toList
      if longMessage ≤ length then
        c.report .longRevertString (longMessageAdvice length) loc
      else c
  | some e => c.skipped .longRevertString e.loc

/-- An expression that stands as a statement should not revert with a message. -/
def checkCustomError (c : Context) : Expression → Context
  | .functionCall callee arguments _ loc =>
      match callee.calledFunction with
      | some "require" =>
          (c.report .customError "use a custom error instead of require" loc).checkMessageLength
            arguments[1]?
      | some "revert" =>
          if arguments.isEmpty then c
          else
            (c.report .customError "use a custom error instead of a revert string"
              loc).checkMessageLength arguments[0]?
      | _ => c
  | _ => c

end Context

end SolidityLint
