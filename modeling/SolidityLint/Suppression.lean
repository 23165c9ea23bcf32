import SolidityLint.Text.Search

set_option autoImplicit false

/-! # Suppression comments

A line that carries one of two markers, wherever it stands on the line, silences diagnostics: the
one for the line itself, the other for the line below. The second marker wins when a line carries
both. -/

namespace SolidityLint.Suppression

/-- The marker that silences its own line. -/
def thisLine : String := "solcheck-disable-line"

/-- The marker that silences the line below. -/
def nextLine : String := "solcheck-disable-next-line"

/-- The line that a marker on line `number` silences, if the line carries one. -/
def silencedBy (number : Nat) (line : List Char) : Option Nat :=
  if Text.occursIn nextLine.toList line then some (number + 1)
  else if Text.occursIn thisLine.toList line then some number
  else none

/-- The lines silenced by markers on `lines`, the first of which has that number. -/
def silencedFrom (number : Nat) : List (List Char) → List Nat
  | [] => []
  | line :: rest => (silencedBy number line).toList ++ silencedFrom (number + 1) rest

/-- The silenced lines of a source, in increasing order. A number may lie past the last line. -/
def silencedLines (source : String) : List Nat :=
  (silencedFrom 1 (Text.lines source.toList)).eraseDups

end SolidityLint.Suppression
