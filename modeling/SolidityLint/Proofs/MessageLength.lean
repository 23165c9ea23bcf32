import Mathlib.Algebra.BigOperators.Group.List.Basic
import Mathlib.Algebra.GroupWithZero.Nat
import Mathlib.Data.List.Forall2
import SolidityLint.Ast.Lower
import SolidityLint.Proofs.RuleFindings

set_option autoImplicit false

/-! # The length of a revert message

A string literal is written in pieces: characters that stand for themselves and escapes of five
kinds. Each piece has a spelling and a number of bytes at run time (`StringPiece.size`), and the
length that the check computes from the spelling is the sum of the sizes of the pieces
(`decodedLength_spelled`). One step carries this: the decoder takes a whole piece off the front and
goes on with what follows it, whatever that is (`decodedLength_spelling_append`). So adjacent
literals add up, and the check of a message is decided by the pieces alone. -/

namespace SolidityLint.Check

open Ast

/-! ## Pieces of a string literal -/

/-- A hexadecimal digit as it is written. -/
structure HexDigit where
  char : Char
  isHex : char ∈ "0123456789abcdefABCDEF".toList

/-- The number that a digit stands for. -/
def HexDigit.value (d : HexDigit) : Nat :=
  "0123456789abcdef".toList.idxOf d.char.toLower

/-- A piece of the body of a string literal. -/
inductive StringPiece where
  /-- A character that stands for itself. -/
  | character (c : Char) (plain : c ≠ '\\')
  /-- `\xNN` -/
  | byte (high low : HexDigit)
  /-- `\uNNNN` -/
  | codePoint (first second third fourth : HexDigit)
  /-- A backslash before a line feed. -/
  | lineFeed
  /-- A backslash before a carriage return and a line feed. -/
  | returnLineFeed
  /-- A backslash before any other character. -/
  | escaped (c : Char) (other : c ∉ ['x', 'u', '\r', '\n'])

/-- The bytes that a code point below 2¹⁶ takes in UTF-8. A surrogate, which is none, counts as
    three. -/
def utf8Length (code : Nat) : Nat :=
  if code < 0x80 then 1 else if code < 0x800 then 2 else 3

namespace StringPiece

/-- How a piece is written between the quotes. -/
def spelling : StringPiece → List Char
  | character c _ => [c]
  | byte high low => ['\\', 'x', high.char, low.char]
  | codePoint first second third fourth =>
      ['\\', 'u', first.char, second.char, third.char, fourth.char]
  | lineFeed => ['\\', '\n']
  | returnLineFeed => ['\\', '\r', '\n']
  | escaped c _ => ['\\', c]

/-- The bytes of a piece at run time. -/
def size : StringPiece → Nat
  | character c _ => c.utf8Size
  | byte _ _ => 1
  | codePoint first second third fourth =>
      utf8Length (first.value * 16 ^ 3 + second.value * 16 ^ 2 + third.value * 16 + fourth.value)
  | lineFeed => 0
  | returnLineFeed => 0
  | escaped _ _ => 1

end StringPiece

/-- The bytes of a body that is written in these pieces. -/
def runtimeLength (pieces : List StringPiece) : Nat :=
  (pieces.map StringPiece.size).sum

/-- `text` is written in these pieces. -/
def SpelledBy (pieces : List StringPiece) (text : String) : Prop :=
  text.toList = pieces.flatMap StringPiece.spelling

/-! ## Code points -/

namespace HexDigit

/-- What a run through the digits finds holds of every digit. -/
theorem of_all {P : Char → Prop} [DecidablePred P]
    (h : "0123456789abcdefABCDEF".toList.all (fun c => decide (P c)) = true) (d : HexDigit) :
    P d.char :=
  of_decide_eq_true (List.all_eq_true.1 h d.char d.isHex)

theorem hexDigitValue?_char (d : HexDigit) : hexDigitValue? d.char = some d.value :=
  of_all (P := fun c => hexDigitValue? c = some ("0123456789abcdef".toList.idxOf c.toLower))
    (by decide) d

theorem value_lt (d : HexDigit) : d.value < 16 :=
  of_all (P := fun c => "0123456789abcdef".toList.idxOf c.toLower < 16) (by decide) d

theorem char_ne_plus (d : HexDigit) : d.char ≠ '+' :=
  of_all (P := fun c => c ≠ '+') (by decide) d

end HexDigit

theorem hexNumber?_digits (a b c d : HexDigit) :
    hexNumber? [a.char, b.char, c.char, d.char]
      = some (a.value * 16 ^ 3 + b.value * 16 ^ 2 + c.value * 16 + d.value) := by
  have hdigits : hexNumber? [a.char, b.char, c.char, d.char]
      = hexNumberFrom? 0 [a.char, b.char, c.char, d.char] := by
    rw [hexNumber?, if_neg a.char_ne_plus]
    intro _ _ hplus
    exact absurd hplus a.char_ne_plus
  simp only [hdigits, hexNumberFrom?, HexDigit.hexDigitValue?_char, Option.bind_eq_bind,
    Option.bind_some, Option.some.injEq]
  omega

theorem toNat_ofNat {code : Nat} (h : code.isValidChar) : (Char.ofNat code).toNat = code := by
  rw [Char.ofNat, dif_pos h]
  rfl

theorem utf8Size_ofNat {code : Nat} (h : code.isValidChar) (hlt : code < 0x10000) :
    (Char.ofNat code).utf8Size = utf8Length code := by
  have hcode : (Char.ofNat code).val.toNat = code := toNat_ofNat h
  simp only [Char.utf8Size, utf8Length, UInt32.le_iff_toNat_le, hcode, UInt32.toNat_ofNatLT]
  grind

/-- Below 2¹⁶, what is no character is a surrogate. -/
theorem codePointLength_digits (a b c d : HexDigit) :
    codePointLength [a.char, b.char, c.char, d.char]
      = utf8Length (a.value * 16 ^ 3 + b.value * 16 ^ 2 + c.value * 16 + d.value) := by
  have hlt : a.value * 16 ^ 3 + b.value * 16 ^ 2 + c.value * 16 + d.value < 0x10000 := by
    have := a.value_lt
    have := b.value_lt
    have := c.value_lt
    have := d.value_lt
    omega
  unfold codePointLength
  rw [hexNumber?_digits]
  generalize a.value * 16 ^ 3 + b.value * 16 ^ 2 + c.value * 16 + d.value = code at hlt ⊢
  show (if code.isValidChar then (Char.ofNat code).utf8Size else 3) = utf8Length code
  split
  · exact utf8Size_ofNat ‹_› hlt
  · unfold utf8Length
    grind

/-! ## The decoder takes whole pieces -/

theorem decodedLength_spelling_append (p : StringPiece) (rest : List Char) :
    decodedLength (p.spelling ++ rest) = p.size + decodedLength rest := by
  cases p with
  | character c plain =>
    show decodedLength (c :: rest) = c.utf8Size + decodedLength rest
    rw [decodedLength] <;> simp [plain]
  | byte high low =>
    show decodedLength ('\\' :: 'x' :: high.char :: low.char :: rest) = 1 + decodedLength rest
    rw [decodedLength]
    rfl
  | codePoint a b c d =>
    show decodedLength ('\\' :: 'u' :: a.char :: b.char :: c.char :: d.char :: rest) = _
    rw [decodedLength, StringPiece.size, ← codePointLength_digits]
    rfl
  | lineFeed =>
    show decodedLength ('\\' :: '\n' :: rest) = 0 + decodedLength rest
    rw [decodedLength, Nat.zero_add]
  | returnLineFeed =>
    show decodedLength ('\\' :: '\r' :: '\n' :: rest) = 0 + decodedLength rest
    rw [decodedLength, Nat.zero_add]
  | escaped c other =>
    simp only [List.mem_cons, List.not_mem_nil, or_false, not_or] at other
    obtain ⟨hx, hu, hreturn, hfeed⟩ := other
    show decodedLength ('\\' :: c :: rest) = 1 + decodedLength rest
    rw [decodedLength] <;> simp [hx, hu, hreturn, hfeed]

/-- **The decoded length is the length at run time.** -/
theorem decodedLength_spelled (pieces : List StringPiece) :
    decodedLength (pieces.flatMap StringPiece.spelling) = runtimeLength pieces := by
  unfold runtimeLength
  induction pieces with
  | nil => simp [decodedLength]
  | cons p rest ih =>
    rw [List.flatMap_cons, decodedLength_spelling_append, ih, List.map_cons, List.sum_cons]

theorem SpelledBy.decodedLength_eq {pieces : List StringPiece} {text : String}
    (h : SpelledBy pieces text) : decodedLength text.toList = runtimeLength pieces := by
  rw [h, decodedLength_spelled]

/-! ## Adjacent literals -/

theorem runtimeLength_flatten (bodies : List (List StringPiece)) :
    runtimeLength bodies.flatten = (bodies.map runtimeLength).sum := by
  unfold runtimeLength
  rw [List.map_flatten, List.sum_flatten, List.map_map]
  rfl

/-- The parts of a literal are written in these bodies, one after the other. -/
def SpelledInParts (bodies : List (List StringPiece)) (parts : List ParseTree.LiteralPart) : Prop :=
  List.Forall₂ (fun pieces part => SpelledBy pieces part.text) bodies parts

namespace SpelledInParts

variable {bodies : List (List StringPiece)} {parts more : List ParseTree.LiteralPart}
  {first : ParseTree.LiteralPart}

theorem flatMap_text (h : SpelledInParts bodies parts) :
    parts.flatMap (fun part => part.text.toList)
      = bodies.flatten.flatMap StringPiece.spelling := by
  induction h with
  | nil => rfl
  | cons hpart _ ih => rw [List.flatMap_cons, hpart, ih, List.flatten_cons, List.flatMap_append]

theorem map_decodedLength (h : SpelledInParts bodies parts) :
    (parts.map fun part => decodedLength part.text.toList) = bodies.map runtimeLength := by
  induction h with
  | nil => rfl
  | cons hpart _ ih => rw [List.map_cons, List.map_cons, ih, hpart.decodedLength_eq]

/-- The pieces of adjacent literals are the pieces of the one that they are joined to. -/
theorem spelledBy_joinedParts (h : SpelledInParts bodies (first :: more)) :
    SpelledBy bodies.flatten (joinedParts first more) := by
  rw [SpelledBy, ← h.flatMap_text, joinedParts, String.toList_join, List.flatMap_cons,
    List.flatMap_cons, List.flatMap_map]

theorem decodedLength_joinedParts (h : SpelledInParts bodies (first :: more)) :
    decodedLength (joinedParts first more).toList
      = ((first :: more).map fun part => decodedLength part.text.toList).sum := by
  rw [h.spelledBy_joinedParts.decodedLength_eq, runtimeLength_flatten, h.map_decodedLength]

end SpelledInParts

/-! ## The check of a message -/

/-- `e` is a call of `require` or `revert` with this message. -/
def HasMessage (e message : Expression) : Prop :=
  ∃ callee arguments names loc, e = .functionCall callee arguments names loc
    ∧ (callee.calledFunction = some "require" ∧ arguments[1]? = some message
      ∨ callee.calledFunction = some "revert" ∧ arguments[0]? = some message)

/-- The finding for a message of `length` bytes. -/
def longMessageFinding (length : Nat) (loc : Location) : Diagnostic :=
  Rule.longRevertString.diagnostic
    ("use a message shorter than 32 bytes (this one is " ++ toString length ++ ")") loc

/-- The message is judged after the advice against having one. -/
theorem customError_of_hasMessage {e message : Expression} (h : HasMessage e message) :
    ∃ advice loc,
      customError e = Rule.customError.diagnostic advice loc :: messageLength (some message) := by
  obtain ⟨callee, arguments, names, loc, rfl, ⟨hname, hmessage⟩ | ⟨hname, hmessage⟩⟩ := h
  · refine ⟨"use a custom error instead of require", loc, ?_⟩
    simp only [customError_eq, hname, hmessage]
  · refine ⟨"use a custom error instead of a revert string", loc, ?_⟩
    have hgiven : arguments.isEmpty = false := by
      rw [List.isEmpty_eq_false_iff]
      rintro rfl
      exact absurd hmessage (by simp)
    simp only [customError_eq, hname, hmessage, hgiven, Bool.false_eq_true, if_false]

theorem messageLength_of_spelledBy {pieces : List StringPiece} {value : String}
    (h : SpelledBy pieces value) (unit : Option String) (loc : Location) :
    messageLength (some (.literal .string value unit loc))
      = if 32 ≤ runtimeLength pieces then [longMessageFinding (runtimeLength pieces) loc]
        else [] := by
  rw [messageLength_eq, ← h.decodedLength_eq]
  rfl

/-- **A revert message is measured in bytes at run time.** The decoded length of a body is the sum
    of the sizes of its pieces; adjacent literals, which lowering joins, add up; and a `require` or
    `revert` whose message is a string literal gets exactly one finding on the length if it has 32
    bytes or more, none otherwise, and is always judged. -/
theorem revert_message_measured :
    (∀ pieces : List StringPiece,
      decodedLength (pieces.flatMap StringPiece.spelling) = (pieces.map StringPiece.size).sum)
    ∧ (∀ (src : Source) (first : ParseTree.LiteralPart) (more : List ParseTree.LiteralPart)
        (bodies : List (List StringPiece)),
        SpelledInParts bodies (first :: more) →
        ∃ value, Expression.lower src (.stringLiteral first more)
            = .literal .string value none (src.loc first.span)
          ∧ SpelledBy bodies.flatten value
          ∧ decodedLength value.toList
            = ((first :: more).map fun part => decodedLength part.text.toList).sum)
    ∧ ∀ (e : Expression) (value : String) (unit : Option String) (loc : Location)
        (pieces : List StringPiece),
        HasMessage e (.literal .string value unit loc) → SpelledBy pieces value →
        (customError e).filter (fun d => d.ruleId == "SOL-G002")
            = (if 32 ≤ runtimeLength pieces then [longMessageFinding (runtimeLength pieces) loc]
              else [])
          ∧ ∀ d ∈ customError e, d.ruleId ≠ "SOL-X001" := by
  refine ⟨decodedLength_spelled, ?_, ?_⟩
  · intro src first more bodies hbodies
    exact ⟨joinedParts first more, rfl, hbodies.spelledBy_joinedParts,
      hbodies.decodedLength_joinedParts⟩
  · intro e value unit loc pieces hmessage hspelled
    obtain ⟨advice, adviceLoc, hfound⟩ := customError_of_hasMessage hmessage
    rw [hfound, messageLength_of_spelledBy hspelled]
    constructor
    · rw [List.filter_cons_of_neg (by simp [Rule.diagnostic, Rule.customError])]
      split
      · rfl
      · rfl
    · intro d hd
      rcases List.mem_cons.1 hd with rfl | hd
      · simp [Rule.diagnostic, Rule.customError]
      · split at hd
        · obtain rfl := List.mem_singleton.1 hd
          simp [longMessageFinding, Rule.diagnostic, Rule.longRevertString]
        · exact absurd hd (by simp)

/-- A message of 28 letters, a code point of three bytes, a line break that counts for nothing and
    one byte. -/
def mixedPieces : List StringPiece :=
  List.replicate 28 (.character 'a' (by decide))
    ++ [.codePoint ⟨'2', by decide⟩ ⟨'0', by decide⟩ ⟨'A', by decide⟩ ⟨'c', by decide⟩, .lineFeed,
      .byte ⟨'f', by decide⟩ ⟨'F', by decide⟩]

/-- `revert` with that message. -/
def mixedRevert : Expression :=
  .functionCall (.identifier "revert" default)
    [.literal .string (String.ofList (mixedPieces.flatMap StringPiece.spelling)) none default] []
    default

/-- It has 32 bytes, written in 40 characters, and is reported. -/
theorem revert_message_measured_mixed :
    (mixedPieces.flatMap StringPiece.spelling).length = 40
    ∧ (customError mixedRevert).filter (fun d => d.ruleId == "SOL-G002")
      = [longMessageFinding 32 default] := by
  have hmessage : HasMessage mixedRevert (.literal .string
      (String.ofList (mixedPieces.flatMap StringPiece.spelling)) none default) :=
    ⟨_, _, _, _, rfl, .inr ⟨rfl, rfl⟩⟩
  have hspelled : SpelledBy mixedPieces
      (String.ofList (mixedPieces.flatMap StringPiece.spelling)) := String.toList_ofList
  have hlength : runtimeLength mixedPieces = 32 := by decide
  have hfound := (revert_message_measured.2.2 _ _ _ _ _ hmessage hspelled).1
  rw [hlength] at hfound
  exact ⟨by decide, hfound⟩

end SolidityLint.Check
