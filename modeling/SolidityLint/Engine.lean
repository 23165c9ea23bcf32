import SolidityLint.Inspection

set_option autoImplicit false

/-! # The engine

One pass over the tree. The pass carries a context and meets the nodes in the order of the walk. At
each node it first registers what the node declares and then runs the node's inspections; so a
function sees the state variables that are declared before it, and not those that follow. -/

namespace SolidityLint

open Ast

/-! ## The pass -/

namespace Engine

/-- The names of the state variables that a node declares. -/
def declaredNames : Node → List String
  | .stateVariable d => d.declared.filterMap fun v => if v.isStateVariable then v.name else none
  | _ => []

/-- Meets one node. -/
def visit (options : Options) (c : Context) (n : Node) : Context :=
  (Inspection.ofNode n).foldl (Context.inspect options)
    ((declaredNames n).foldl Context.register c)

/-- The findings of a whole pass over a source unit, in the order in which they are made. -/
def run (options : Options) (unit : SourceUnit) : List Diagnostic :=
  ((Node.sourceUnit unit).walk.foldl (visit options) .empty).diagnostics

end Engine

/-! ## A context under single steps -/

/-- One operation on a context. -/
inductive Step where
  | register (name : String)
  | contains (name : String)
  | report (rule : Rule) (message : String) (location : Location)
  | skipped (rule : Rule) (location : Location)
  | judgeName (kind name : String) (style : Check.CaseStyle) (reference : Option String)
      (location : Location)
  | inspect (inspection : Inspection)
deriving Repr, Inhabited

/-- Takes one step. Registering answers whether the name is new, asking for a name whether it is
    registered; other steps answer nothing. -/
def Context.step (options : Options) (c : Context) : Step → Context × Option Bool
  | .register name => (c.register name, some (!c.registry.contains name))
  | .contains name => (c, some (c.registry.contains name))
  | .report rule message location => (c.report rule message location, none)
  | .skipped rule location => (c.skipped rule location, none)
  | .judgeName kind name style reference location =>
      (c.checkName kind name style reference location, none)
  | .inspect inspection => (c.inspect options inspection, none)

end SolidityLint
