import SolidityLint.Ast
import SolidityLint.Context

set_option autoImplicit false

/-! # Increments and decrements

`x++`, `x += 1` and `x = x + 1` all cost more than `++x`, and likewise for decrements. The check
looks at an expression that is evaluated for its effect only. Whether both sides of `x = x + 1` name
the same variable is decided by their spelling. -/

namespace SolidityLint

open Ast

namespace Check

/-- The spelling of a target: an identifier, a number, or an index or member of one. Other
    expressions have none. -/
def targetText : Expression → Option String
  | .identifier name _ => some name
  | .literal .number value _ _ => some value
  | .indexAccess base none _ => do return (← targetText base) ++ "[]"
  | .indexAccess base (some index) _ => do
      return (← targetText base) ++ "[" ++ (← targetText index) ++ "]"
  | .memberAccess base member _ => do return (← targetText base) ++ "." ++ member
  | _ => none

/-- Have both expressions a spelling, and the same? -/
def sameTarget (a b : Expression) : Bool :=
  match targetText a, targetText b with
  | some x, some y => x == y
  | _, _ => false

/-- A costly way to add or subtract one. -/
structure IncrementIdiom where
  /-- The operator to use instead, before the target. -/
  operator : String
  target : Expression
  /-- The idiom as written, for that spelling of the target. -/
  written : String → String

/-- The idiom that a binary operation is, if any. -/
def assignmentIdiom? (operator : String) (left right : Expression) : Option IncrementIdiom :=
  match operator with
  | "+=" => if right.isNumberOne then some ⟨"++", left, fun x => x ++ " += 1"⟩ else none
  | "-=" => if right.isNumberOne then some ⟨"--", left, fun x => x ++ " -= 1"⟩ else none
  | "=" =>
      match right with
      | .binaryOperation "+" a b _ =>
          if sameTarget left a && b.isNumberOne then
            some ⟨"++", left, fun x => x ++ " = " ++ x ++ " + 1"⟩
          else if a.isNumberOne && sameTarget left b then
            some ⟨"++", left, fun x => x ++ " = 1 + " ++ x⟩
          else none
      | .binaryOperation "-" a b _ =>
          if sameTarget left a && b.isNumberOne then
            some ⟨"--", left, fun x => x ++ " = " ++ x ++ " - 1"⟩
          else none
      | _ => none
  | _ => none

/-- The idiom that an expression is, if any. -/
def incrementIdiom? : Expression → Option IncrementIdiom
  | .unaryOperation "++" operand false _ => some ⟨"++", operand, fun x => x ++ "++"⟩
  | .unaryOperation "--" operand false _ => some ⟨"--", operand, fun x => x ++ "--"⟩
  | .binaryOperation operator left right _ => assignmentIdiom? operator left right
  | _ => none

/-- The advice for an idiom. A target without a spelling is called `x`. -/
def IncrementIdiom.message (idiom : IncrementIdiom) : String :=
  match targetText idiom.target with
  | some target =>
      "use \"" ++ idiom.operator ++ target ++ "\" instead of \"" ++ idiom.written target ++ "\""
  | none =>
      "use the prefix form \"" ++ idiom.operator ++ "x\" instead of \"" ++ idiom.written "x" ++ "\""

end Check

/-- An expression that adds or subtracts one should do so in the cheapest way. -/
def Context.checkIncrement (c : Context) (e : Expression) : Context :=
  match Check.incrementIdiom? e with
  | some idiom => c.report .incrementIdiom idiom.message e.loc
  | none => c

end SolidityLint
