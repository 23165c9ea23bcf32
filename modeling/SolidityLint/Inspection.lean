import SolidityLint.Check.ExternalCall
import SolidityLint.Check.Gas
import SolidityLint.Check.Increment
import SolidityLint.Check.Layout
import SolidityLint.Check.Naming
import SolidityLint.Check.RevertMessage
import SolidityLint.Check.Visibility

set_option autoImplicit false

/-! # Inspections

An inspection is one check together with the part of the tree that it looks at. Running one
(`Context.inspect`) takes the context to the context after the check.

Which inspections a node calls for, and in which order, is a table: `Inspection.ofNode`. -/

namespace SolidityLint

open Ast

/-- Switches of the checks. -/
structure Options where
  /-- Note short-circuit evaluation at `<=` too, and twice at `&&`. -/
  legacyOperators : Bool
deriving Repr, DecidableEq, Inhabited

/-- A check and what it looks at. -/
inductive Inspection where
  | layoutOrder (unit : SourceUnit)
  | blankLines (unit : SourceUnit)
  | contractOrder (contract : ContractDefinition)
  | functionOrder (contract : ContractDefinition)
  | contractName (contract : ContractDefinition)
  | stateVariableVisibility (declaration : StateVariableDeclaration)
  | stateVariableUnderscore (declaration : VariableDeclaration)
  | stateVariableName (declaration : VariableDeclaration)
  | typeAbbreviation (declaration : VariableDeclaration)
  | functionVisibility (definition : FunctionDefinition)
  | functionUnderscore (definition : FunctionDefinition)
  | functionName (definition : FunctionDefinition)
  | reentrancy (definition : FunctionDefinition)
  | stateVariableCaching (definition : FunctionDefinition)
  | calldataParameters (definition : FunctionDefinition)
  | namedReturns (definition : FunctionDefinition)
  | parameterNames (parameters : List VariableDeclaration)
  | localVariableNames (declared : List (Option VariableDeclaration))
  | declaredCallResult (declared : List (Option VariableDeclaration))
      (initialValue : Option Expression) (loc : Location)
  | structName (definition : StructDefinition)
  | eventName (definition : EventDefinition)
  | indexedEvents (definition : EventDefinition)
  | enumName (definition : EnumDefinition)
  | modifierName (definition : ModifierDefinition)
  | unsafeGlobal (base : Expression) (member : String) (loc : Location)
  | discardedCallResult (expression : Expression)
  | customError (expression : Expression)
  | loopLengthCaching (condition : Option Expression) (loc : Location)
  | increment (expression : Expression)
  | comparisonOperator (operator : String) (loc : Location)
  | erc721Inheritance (specifier : InheritanceSpecifier)
deriving Repr, Inhabited

/-- Runs an inspection. -/
def Context.inspect (options : Options) (c : Context) : Inspection → Context
  | .layoutOrder u => c.checkLayoutOrder u
  | .blankLines u => c.checkBlankLines u
  | .contractOrder d => c.checkContractOrder d
  | .functionOrder d => c.checkFunctionOrder d
  | .contractName d => c.checkContractName d
  | .stateVariableVisibility d => c.checkStateVariableVisibility d
  | .stateVariableUnderscore v => c.checkStateVariableUnderscore v
  | .stateVariableName v => c.checkStateVariableName v
  | .typeAbbreviation v => c.checkTypeAbbreviation v
  | .functionVisibility f => c.checkFunctionVisibility f
  | .functionUnderscore f => c.checkFunctionUnderscore f
  | .functionName f => c.checkFunctionName f
  | .reentrancy f => c.checkReentrancy f
  | .stateVariableCaching f => c.checkStateVariableCaching f
  | .calldataParameters f => c.checkCalldataParameters f
  | .namedReturns f => c.checkNamedReturns f
  | .parameterNames parameters => c.checkParameterNames parameters
  | .localVariableNames declared => c.checkLocalVariableNames declared
  | .declaredCallResult declared initialValue loc =>
      c.checkDeclaredCallResult declared initialValue loc
  | .structName d => c.checkStructName d
  | .eventName d => c.checkEventName d
  | .indexedEvents d => c.checkIndexedEvents d
  | .enumName d => c.checkEnumName d
  | .modifierName d => c.checkModifierName d
  | .unsafeGlobal base member loc => c.checkUnsafeGlobal base member loc
  | .discardedCallResult e => c.checkDiscardedCallResult e
  | .customError e => c.checkCustomError e
  | .loopLengthCaching condition loc => c.checkLoopLengthCaching condition loc
  | .increment e => c.checkIncrement e
  | .comparisonOperator operator loc =>
      c.checkComparisonOperator options.legacyOperators operator loc
  | .erc721Inheritance s => c.checkErc721Inheritance s

namespace Inspection

/-! ## The table -/

/-- The inspections that a function calls for. A constructor has no name to judge. -/
def ofFunction (f : FunctionDefinition) : List Inspection :=
  (if f.isConstructor then [] else [functionUnderscore f, functionName f])
    ++ [parameterNames f.parameters, namedReturns f, functionVisibility f, calldataParameters f,
      stateVariableCaching f, reentrancy f]

/-- The inspections that a statement calls for. -/
def ofStatement : Statement → List Inspection
  | .variableDeclaration declared initialValue loc =>
      [declaredCallResult declared initialValue loc, localVariableNames declared]
  | .expression e _ => [customError e, discardedCallResult e, increment e]
  | .forLoop _ condition update _ loc =>
      loopLengthCaching condition loc :: update.toList.map increment
  | .block .. | .ifElse .. | .whileLoop .. | .doWhile .. | .returnValue .. | .emitEvent ..
  | .revertWith .. | .tryCatch .. | .other .. => []

/-- The inspections that an expression calls for. -/
def ofExpression : Expression → List Inspection
  | .memberAccess base member loc => [unsafeGlobal base member loc]
  | .binaryOperation operator _ _ loc => [comparisonOperator operator loc]
  | .identifier .. | .indexAccess .. | .functionCall .. | .callOptions .. | .unaryOperation ..
  | .conditional .. | .literal .. | .tuple .. | .newExpression .. | .elementaryTypeName ..
  | .other .. => []

/-- The inspections that a node calls for, in the order in which they run. -/
def ofNode : Node → List Inspection
  | .sourceUnit u => [layoutOrder u, blankLines u]
  | .stateVariable d =>
      stateVariableVisibility d
        :: d.declared.flatMap fun v => [stateVariableUnderscore v, stateVariableName v]
  | .function f => ofFunction f
  | .declaration v => [typeAbbreviation v]
  | .event d => [indexedEvents d, eventName d]
  | .inheritance s => [erc721Inheritance s]
  | .contract c => [contractOrder c, functionOrder c, contractName c]
  | .struct d => [structName d]
  | .modifier d => [modifierName d, parameterNames d.parameters]
  | .enum d => [enumName d]
  | .statement s => ofStatement s
  | .expression e => ofExpression e
  | .pragma _ | .importDirective _ | .error _ | .body _ | .other _ => []

end Inspection

end SolidityLint
