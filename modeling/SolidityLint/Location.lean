set_option autoImplicit false

/-! # Source locations

A position is a line and a column, a location the stretch of text between two positions. Both are
plain data: every node of the syntax tree and every diagnostic carries a location, and nothing in
the linter computes with one except the check that counts blank lines between contracts. -/

namespace SolidityLint

/-- A line and a column. Lines count from one, columns from zero, in characters. -/
structure Position where
  line : Nat
  column : Nat
deriving Repr, DecidableEq, Inhabited

/-- The reading order of positions: by line, then by column. -/
instance : LT Position :=
  ⟨fun a b => a.line < b.line ∨ a.line = b.line ∧ a.column < b.column⟩

instance : LE Position := ⟨fun a b => a < b ∨ a = b⟩

/-- The stretch of source text that a node or a diagnostic refers to. -/
structure Location where
  start : Position
  stop : Position
deriving Repr, DecidableEq, Inhabited

/-- The location of nothing: both ends are line zero, column zero. -/
def Location.zero : Location := ⟨⟨0, 0⟩, ⟨0, 0⟩⟩

end SolidityLint
