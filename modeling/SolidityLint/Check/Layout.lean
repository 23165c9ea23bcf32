import SolidityLint.Ast.Node
import SolidityLint.Context

set_option autoImplicit false

/-! # Order and spacing of declarations

Items of a file and members of a contract have an expected order by category. Both order checks go
from left to right, compare each entry with the category before it, and stop at the first entry that
is out of order, so each reports at most once. An item of a file without a category stops the check
too, with a note; a member without one is passed over.

Functions have their own order by kind and visibility, reported once for the contract, and two
contracts that follow each other are expected to have exactly two blank lines between them. -/

namespace SolidityLint

open Ast

namespace Check

/-! ## Items of a file -/

/-- The categories of top-level items. -/
inductive LayoutCategory where
  | pragma
  | importDirective
  | event
  | error
  | interface
  | library
  | contract
deriving Repr, DecidableEq, Inhabited

namespace LayoutCategory

/-- The place in the expected order. -/
def rank : LayoutCategory → Nat
  | pragma => 0
  | importDirective => 1
  | event => 2
  | error => 3
  | interface => 4
  | library => 5
  | contract => 6

/-- What findings call a category. -/
def label : LayoutCategory → String
  | pragma => "pragma directive"
  | importDirective => "import directive"
  | event => "event definition"
  | error => "error definition"
  | interface => "interface"
  | library => "library"
  | contract => "contract"

/-- The category of a contract of that kind. -/
def ofContractKind : ContractKind → LayoutCategory
  | .interface => interface
  | .library => library
  | .contract | .abstract => contract

/-- The category of an item, if it has one. -/
def ofItem? : TopLevelItem → Option LayoutCategory
  | .pragma _ => some pragma
  | .importDirective _ => some importDirective
  | .event _ => some event
  | .error _ => some error
  | .contract c => some (ofContractKind c.kind)
  | .struct _ | .enum _ | .function _ | .stateVariable _ | .other _ => none

end LayoutCategory

/-- The text for an item that should stand before its predecessors. -/
def itemOutOfOrderMessage (position : Nat) (category previous : LayoutCategory) : String :=
  category.label ++ " at position " ++ toString position
    ++ " is out of order: it should come before any " ++ previous.label

/-- The text for an item that has no place in the order. -/
def itemUnknownMessage (position : Nat) (item : Node) : String :=
  "unknown top-level " ++ item.kindName ++ " at position " ++ toString position
    ++ "; layout order not checked further"

end Check

namespace Context

open Check

/-- Checks the items from that position on, after one of category `previous`. -/
def checkLayoutOrderFrom (c : Context) (position : Nat) (previous : Option LayoutCategory) :
    List TopLevelItem → Context
  | [] => c
  | item :: rest =>
      match LayoutCategory.ofItem? item with
      | none =>
          c.report .unknownTopLevel (itemUnknownMessage position item.toNode) item.toNode.loc
      | some category =>
          match previous with
          | some before =>
              if category.rank < before.rank then
                c.report .layoutOrder (itemOutOfOrderMessage position category before)
                  item.toNode.loc
              else c.checkLayoutOrderFrom (position + 1) (some category) rest
          | none => c.checkLayoutOrderFrom (position + 1) (some category) rest

/-- The items of a file stand in the expected order. -/
def checkLayoutOrder (c : Context) (unit : SourceUnit) : Context :=
  c.checkLayoutOrderFrom 0 none unit.items

end Context

/-! ## Members of a contract -/

namespace Check

/-- The categories of contract members. -/
inductive MemberCategory where
  | struct
  | enum
  | stateVariable
  | event
  | customError
  | modifier
  | function
deriving Repr, DecidableEq, Inhabited

namespace MemberCategory

/-- The place in the expected order. -/
def rank : MemberCategory → Nat
  | struct => 0
  | enum => 1
  | stateVariable => 2
  | event => 3
  | customError => 4
  | modifier => 5
  | function => 6

/-- What findings call a category. -/
def label : MemberCategory → String
  | struct => "struct"
  | enum => "enum"
  | stateVariable => "state variable"
  | event => "event"
  | customError => "custom error"
  | modifier => "modifier"
  | function => "function"

/-- The category of a member, if it has one. -/
def ofMember? : Member → Option MemberCategory
  | .struct _ => some struct
  | .enum _ => some enum
  | .stateVariable _ => some stateVariable
  | .event _ => some event
  | .error _ => some customError
  | .modifier _ => some modifier
  | .function _ => some function
  | .other _ => none

end MemberCategory

/-- The text for a member that should stand before its predecessors. -/
def memberOutOfOrderMessage (contract : String) (category previous : MemberCategory) : String :=
  category.label ++ " in \"" ++ contract ++ "\" is out of order: it should come before any "
    ++ previous.label

end Check

namespace Context

open Check

/-- Checks the members that follow one of category `previous`. -/
def checkContractOrderFrom (c : Context) (contract : String) (previous : Option MemberCategory) :
    List Member → Context
  | [] => c
  | member :: rest =>
      match MemberCategory.ofMember? member with
      | none => c.checkContractOrderFrom contract previous rest
      | some category =>
          match previous with
          | some before =>
              if category.rank < before.rank then
                c.report .contractOrder (memberOutOfOrderMessage contract category before)
                  member.toNode.loc
              else c.checkContractOrderFrom contract (some category) rest
          | none => c.checkContractOrderFrom contract (some category) rest

/-- The members of a contract stand in the expected order. -/
def checkContractOrder (c : Context) (contract : ContractDefinition) : Context :=
  c.checkContractOrderFrom contract.name none contract.members

end Context

/-! ## Functions of a contract -/

namespace Check

/-- The place of a function among the others: constructor, receive, fallback, then by visibility. -/
def functionRank (f : FunctionDefinition) : Nat :=
  match f.kind with
  | .constructor => 0
  | .receive => 1
  | .fallback => 2
  | .function =>
      match f.visibility with
      | .external => 3
      | .pub => 4
      | .internal => 5
      | .priv => 6
      | .unspecified => 7

/-- Is no number followed directly by a smaller one? -/
def ascending : List Nat → Bool
  | a :: b :: rest => decide (a ≤ b) && ascending (b :: rest)
  | _ => true

/-- The text for a contract whose functions are out of order. -/
def functionOrderMessage (contract : ContractDefinition) : String :=
  "function order is wrong in " ++ contract.kind.label ++ " \"" ++ contract.name ++ "\""

end Check

open Check in
/-- The functions of a contract stand in the expected order. -/
def Context.checkFunctionOrder (c : Context) (contract : ContractDefinition) : Context :=
  if ascending (contract.functions.map functionRank) then c
  else c.report .functionOrder (functionOrderMessage contract) contract.loc

/-! ## Blank lines between contracts -/

namespace Check

/-- The top-level contracts of a file. -/
def contractsOf (unit : SourceUnit) : List ContractDefinition :=
  unit.items.filterMap fun
    | .contract c => some c
    | _ => none

/-- The text for two contracts that are too close or too far apart. -/
def blankLinesMessage (previous next : ContractDefinition) : String :=
  "there should be 2 blank lines between " ++ previous.name ++ " and " ++ next.name

end Check

namespace Context

open Check

/-- Of two neighbours the second starts three lines below the first's end. -/
def checkBlankLinesBetween (c : Context) (previous next : ContractDefinition) : Context :=
  if next.loc.start.line = previous.loc.stop.line + 3 then c
  else c.report .blankLines (blankLinesMessage previous next) ⟨previous.loc.stop, next.loc.start⟩

/-- Any two neighbours among contracts are two blank lines apart. -/
def checkBlankLinesAmong (c : Context) : List ContractDefinition → Context
  | previous :: next :: rest =>
      (c.checkBlankLinesBetween previous next).checkBlankLinesAmong (next :: rest)
  | _ => c

/-- The contracts of a file are two blank lines apart. -/
def checkBlankLines (c : Context) (unit : SourceUnit) : Context :=
  c.checkBlankLinesAmong (contractsOf unit)

end Context

end SolidityLint
