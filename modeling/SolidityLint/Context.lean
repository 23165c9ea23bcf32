import SolidityLint.Diagnostic
import SolidityLint.Registry

set_option autoImplicit false

/-! # The context of a pass

What a pass carries from node to node: the state variables declared so far and the findings so far.
A rule takes the context and gives it back. It asks the registry for names, reports findings and
notes what it could not evaluate; names are registered by the engine alone. -/

namespace SolidityLint

/-- What a pass has gathered. -/
structure Context where
  registry : Registry
  /-- In the order in which they were reported. -/
  diagnostics : List Diagnostic
deriving Repr, DecidableEq, Inhabited

namespace Context

/-- The context in which a pass starts. -/
def empty : Context := ⟨.empty, []⟩

/-- Registers the name of a state variable. -/
def register (c : Context) (name : String) : Context :=
  { c with registry := c.registry.register name }

/-- Appends a finding of a rule. -/
def report (c : Context) (rule : Rule) (message : String) (location : Location) : Context :=
  { c with diagnostics := c.diagnostics ++ [rule.diagnostic message location] }

/-- Notes that a rule could not be evaluated at a location. -/
def skipped (c : Context) (rule : Rule) (location : Location) : Context :=
  c.report .ruleSkipped (rule.skippedMessage location) location

end Context

end SolidityLint
