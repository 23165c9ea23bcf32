import SolidityLint.Ast.Node
import SolidityLint.Context

set_option autoImplicit false

/-! # External calls

State that is written after a call to another contract can be seen in its old form by the callee,
and a low-level call reports failure only through its result. Both checks look at the shape of the
code alone: the first at the statements directly in a function body, the second at one statement. -/

namespace SolidityLint

open Ast

namespace Check

/-! ## What the checks look for -/

/-- The root of the target that a statement assigns to, if the statement is an assignment. -/
def assignedName : Statement → Option String
  | .expression (.binaryOperation operator left _ _) _ =>
      if isAssignment operator then left.baseIdentifier else none
  | _ => none

/-- What stands after the first statement that contains a low-level call. -/
def afterLowLevelCall : List Statement → List Statement
  | [] => []
  | s :: rest => if (Node.statement s).containsLowLevelCall then rest else afterLowLevelCall rest

/-- The text for a write to `target` after the call in `f`. -/
def stateWriteMessage (f : FunctionDefinition) (target : String) : String :=
  "do not assign to state after external call: \"" ++ target
    ++ "\" is written after the call in \"" ++ f.displayName ++ "\""

/-- The text for a low-level call whose success flag is not named. -/
def uncapturedFlagMessage : String :=
  "capture the success flag returned by the external call"

/-- The text for a call or send whose result is thrown away. -/
def discardedResultMessage (member : String) : String :=
  "capture the return value of the external " ++ member

end Check

namespace Context

open Check

/-! ## State written after a call -/

/-- A statement after the call must not assign to a registered variable. -/
def checkStateWrite (f : FunctionDefinition) (c : Context) (s : Statement) : Context :=
  match assignedName s with
  | some target =>
      if c.registry.contains target then
        c.report .reentrancy (stateWriteMessage f target) s.loc
      else c
  | none => c

/-- No state is written after the first low-level call directly in a body. -/
def checkReentrancy (c : Context) (f : FunctionDefinition) : Context :=
  match f.body with
  | none => c
  | some body => (afterLowLevelCall body.statements).foldl (checkStateWrite f) c

/-! ## Results of calls -/

/-- A declaration from a low-level call has to name the first result, the success flag. -/
def checkDeclaredCallResult (c : Context) (declared : List (Option VariableDeclaration))
    (initialValue : Option Expression) (loc : Location) : Context :=
  match initialValue with
  | some (.functionCall callee _ _ _) =>
      if callee.calledMember = some "call" && declared.head?.join.isNone then
        c.report .uncheckedCall uncapturedFlagMessage loc
      else c
  | _ => c

/-- The result of a low-level call or send must not be thrown away. -/
def checkDiscardedCallResult (c : Context) : Expression → Context
  | .functionCall callee _ _ loc =>
      match callee.calledMember with
      | some member =>
          if member = "call" || member = "send" then
            c.report .uncheckedCall (discardedResultMessage member) loc
          else c
      | none => c
  | _ => c

/-! ## Globals that others control -/

/-- The sender of the whole transaction and the time of the block are no safe grounds for a
    decision. -/
def checkUnsafeGlobal (c : Context) (base : Expression) (member : String) (loc : Location) :
    Context :=
  match base.identifierName, member with
  | some "tx", "origin" => c.report .txOrigin "avoid using tx.origin" loc
  | some "block", "timestamp" => c.report .blockTimestamp "avoid using block.timestamp" loc
  | _, _ => c

end Context

end SolidityLint
