set_option autoImplicit false

/-! # JSON values

The values that syntax trees and reports are written as. Numbers are natural numbers, since nothing
the linter writes is negative or fractional, and the members of an object keep the order they are
written in. -/

namespace SolidityLint

/-- A JSON value. The members of an object are in order and may repeat. -/
inductive Json where
  | null
  | bool (value : Bool)
  | num (value : Nat)
  | str (value : String)
  | arr (items : List Json)
  | obj (members : List (String × Json))
deriving Repr, Inhabited

namespace Json

/-- A text, or `null` for none. -/
def ofOptionalText : Option String → Json
  | some s => str s
  | none => null

/-- A list of texts. -/
def ofTexts (texts : List String) : Json :=
  arr (texts.map str)

/-- The first member of that name; `null` if there is none or the value is no object. -/
def field (key : String) : Json → Json
  | obj members => (members.lookup key).getD null
  | _ => null

mutual

/-- How many values lie on the longest path from this value down to a leaf. -/
def depth : Json → Nat
  | arr items => depthOfItems items + 1
  | obj members => depthOfMembers members + 1
  | _ => 1

/-- The depth of the deepest of some values. -/
def depthOfItems : List Json → Nat
  | [] => 0
  | item :: rest => max item.depth (depthOfItems rest)

/-- The depth of the deepest value of some members. -/
def depthOfMembers : List (String × Json) → Nat
  | [] => 0
  | (_, value) :: rest => max value.depth (depthOfMembers rest)

end

end Json

end SolidityLint
