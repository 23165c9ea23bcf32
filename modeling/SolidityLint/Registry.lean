set_option autoImplicit false

/-! # The state-variable registry

The names of the state variables met so far, each once, in the order of their first declaration.
Names are only ever added, and a rule that runs at a node sees what was declared before that
node. -/

namespace SolidityLint

/-- The names registered so far. -/
structure Registry where
  names : List String
deriving Repr, DecidableEq, Inhabited

namespace Registry

/-- Nothing is registered. -/
def empty : Registry := ⟨[]⟩

/-- Is the name registered? -/
def contains (r : Registry) (name : String) : Bool :=
  r.names.contains name

/-- Adds a name at the end, unless it is there already. -/
def register (r : Registry) (name : String) : Registry :=
  if r.contains name then r else ⟨r.names ++ [name]⟩

end Registry

end SolidityLint
