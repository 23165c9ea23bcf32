import SolidityLint.Ast.Node
import SolidityLint.Check.ExternalCall
import SolidityLint.Context
import SolidityLint.Text.Search

set_option autoImplicit false

/-! # Cheaper code

Suggestions that save gas. Each looks at the shape of the code alone; none resolves a type or
follows a value from one statement to another. -/

namespace SolidityLint

open Ast

namespace Check

/-! ## What the checks look for -/

/-- A state variable that one function uses more often than this is worth caching. -/
def cacheThreshold : Nat := 2

/-- The registered names that a body uses often, with the number of uses, in the order of
    registration. -/
def heavyNames (registry : Registry) (body : Block) : List (String × Nat) :=
  (registry.names.map fun name => (name, (Node.body body).countIdentifier name)).filter
    fun (_, count) => cacheThreshold < count

/-- The variable whose length a loop condition `i < items.length` asks for. -/
def loopArray? : Option Expression → Option String
  | some (.binaryOperation _ _ (.memberAccess base "length" _) _) => base.identifierName
  | _ => none

/-- Is a variable of that name assigned to directly in the body? -/
def isAssignedIn (body : Block) (name : String) : Bool :=
  !name.isEmpty && body.statements.any fun s => assignedName s == some name

/-- The types whose values are cheap to index. -/
def isCheapToIndex (t : TypeName) : Bool :=
  t.kind = .elementary
    && (Text.occursIn "uint".toList t.name.toList || t.name = "bool" || t.name = "address")

/-- The strict comparison to use instead. -/
def strictComparison? : String → Option String
  | ">=" => some ">"
  | "<=" => some "<"
  | _ => none

/-- How often an operator is noted for short-circuit evaluation. In legacy mode `<=` counts as one
    use of each connective, and `&&` as two. -/
def shortCircuitNotes (legacy : Bool) : String → Nat
  | "<=" => if legacy then 2 else 0
  | "&&" => if legacy then 2 else 1
  | "||" => 1
  | _ => 0

/-! ## What the findings say -/

/-- The text for a state variable that `f` uses so often. -/
def cacheMessage (f : FunctionDefinition) (name : String) (count : Nat) : String :=
  "cache state variable \"" ++ name ++ "\" in a local variable: it is used " ++ toString count
    ++ " times in function \"" ++ f.displayName ++ "\""

/-- The text for a loop that asks for the length of a state variable in every round. -/
def cacheLengthMessage (array : String) : String :=
  "cache the length of \"" ++ array ++ "\" before the for loop"

/-- The text for a parameter in memory. -/
def calldataMessage (name : String) : String :=
  "use calldata instead of memory for parameter \"" ++ name ++ "\""

/-- The text for a return value of `f` without a name. -/
def namedReturnMessage (f : FunctionDefinition) : String :=
  "use a named return parameter in function \"" ++ f.displayName ++ "\""

/-- The text for a parameter of an event that could be indexed. -/
def indexedEventMessage (d : EventDefinition) (v : VariableDeclaration) : String :=
  "make parameter \"" ++ v.name.getD "" ++ "\" of event \"" ++ d.name ++ "\" indexed"

/-- The text for a declaration with an abbreviated type. -/
def abbreviationMessage (v : VariableDeclaration) : String :=
  "use uint256 instead of the abbreviation uint for \"" ++ v.name.getD "" ++ "\""

/-- The text for a comparison that admits equality. -/
def strictComparisonMessage (better operator : String) : String :=
  "use " ++ better ++ " instead of " ++ operator ++ " to save gas"

/-- The text for a connective that evaluates its right side on demand. -/
def shortCircuitMessage : String :=
  "put the cheaper condition first to benefit from short-circuit evaluation"

end Check

namespace Context

open Check

/-! ## Reads of storage -/

/-- A registered name that the body uses often could be cached. All names are counted before the
    first is reported. -/
def checkStateVariableCaching (c : Context) (f : FunctionDefinition) : Context :=
  match f.body with
  | none => c
  | some body =>
      (heavyNames c.registry body).foldl
        (fun c (name, count) => c.report .cacheStateVariable (cacheMessage f name count) f.loc) c

/-- A loop that asks for the length of a state variable reads storage in every round. -/
def checkLoopLengthCaching (c : Context) (condition : Option Expression) (loc : Location) :
    Context :=
  match loopArray? condition with
  | some array =>
      if c.registry.contains array then
        c.report .cacheArrayLength (cacheLengthMessage array) loc
      else c
  | none => c

/-! ## Parameters and return values -/

/-- A parameter in memory that the body does not assign to could stay in calldata. -/
def checkCalldataParameter (body : Block) (c : Context) (v : VariableDeclaration) : Context :=
  let name := v.name.getD ""
  if v.dataLocation = some .memory && !isAssignedIn body name then
    c.report .calldataParameter (calldataMessage name) v.loc
  else c

/-- Every parameter of a function with a body is looked at. -/
def checkCalldataParameters (c : Context) (f : FunctionDefinition) : Context :=
  match f.body with
  | none => c
  | some body => f.parameters.foldl (checkCalldataParameter body) c

/-- A return value should have a name. -/
def checkNamedReturns (c : Context) (f : FunctionDefinition) : Context :=
  f.returnParameters.foldl
    (fun c v => if v.name.isNone then c.report .namedReturn (namedReturnMessage f) v.loc else c) c

/-! ## Declarations -/

/-- A parameter of an event that is cheap to index should be indexed. -/
def checkIndexedEvents (c : Context) (d : EventDefinition) : Context :=
  d.parameters.foldl
    (fun c v =>
      if !v.isIndexed && isCheapToIndex v.typeName then
        c.report .indexedEvent (indexedEventMessage d v) v.loc
      else c) c

/-- A type is written out in full. -/
def checkTypeAbbreviation (c : Context) (v : VariableDeclaration) : Context :=
  if v.typeName.name = "uint" then c.report .typeAbbreviation (abbreviationMessage v) v.loc else c

/-- One token standard is cheaper than the other. -/
def checkErc721Inheritance (c : Context) (s : InheritanceSpecifier) : Context :=
  if s.baseName = "ERC721" then
    c.report .useErc1155 "ERC1155 is cheaper than ERC721 for batch operations" s.loc
  else c

/-! ## Operators -/

/-- A comparison that admits equality costs more than a strict one. -/
def checkStrictComparison (c : Context) (operator : String) (loc : Location) : Context :=
  match strictComparison? operator with
  | some better => c.report .strictComparison (strictComparisonMessage better operator) loc
  | none => c

/-- Notes short-circuit evaluation so many times. -/
def noteShortCircuit (c : Context) (loc : Location) : Nat → Context
  | 0 => c
  | notes + 1 => (c.report .shortCircuit shortCircuitMessage loc).noteShortCircuit loc notes

/-- The advice for an operator: to compare strictly, then on the order of conditions. -/
def checkComparisonOperator (c : Context) (legacy : Bool) (operator : String) (loc : Location) :
    Context :=
  (c.checkStrictComparison operator loc).noteShortCircuit loc (shortCircuitNotes legacy operator)

end Context

end SolidityLint
