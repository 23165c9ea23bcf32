import SolidityLint.Location

set_option autoImplicit false

/-! # Diagnostics and the rule catalogue

A diagnostic is one finding. It is built from a rule of the catalogue, which fixes its identifier,
its severity and its documentation page; only the naming rule is documented by several pages, one
for each kind of name. -/

namespace SolidityLint

/-! ## Severities -/

/-- How much a finding matters. -/
inductive Severity where
  | info
  | warning
  | high
  | critical
deriving Repr, DecidableEq, Inhabited

namespace Severity

/-- The place in the order from least to most severe. -/
def rank : Severity → Nat
  | info => 0
  | warning => 1
  | high => 2
  | critical => 3

/-- The more it matters, the greater. -/
instance : LE Severity := ⟨fun a b => a.rank ≤ b.rank⟩

instance (a b : Severity) : Decidable (a ≤ b) := inferInstanceAs (Decidable (a.rank ≤ b.rank))

/-- How reports for people spell a severity. -/
def label : Severity → String
  | info => "INFO"
  | warning => "WARNING"
  | high => "HIGH"
  | critical => "CRITICAL"

/-- How options and JSON reports spell a severity. -/
def word : Severity → String
  | info => "info"
  | warning => "warning"
  | high => "high"
  | critical => "critical"

/-- The severity that is spelled so. -/
def ofWord? (s : String) : Option Severity :=
  [info, warning, high, critical].find? fun severity => severity.word == s

end Severity

/-! ## Diagnostics and rules -/

/-- One finding. -/
structure Diagnostic where
  ruleId : String
  message : String
  severity : Severity
  location : Location
  /-- The page that documents the rule. -/
  reference : Option String
deriving Repr, DecidableEq, Inhabited

/-- What is fixed about a rule. -/
structure Rule where
  id : String
  severity : Severity
  reference : Option String
deriving Repr, DecidableEq, Inhabited

namespace Rule

/-- A finding of this rule. -/
def diagnostic (rule : Rule) (message : String) (location : Location) : Diagnostic :=
  ⟨rule.id, message, rule.severity, location, rule.reference⟩

/-- A page of the rule documentation. -/
def page (path : String) : Option String :=
  some ("https://github.com/soroush-khoshnoudi/smart_contract_security/blob/main/docs/" ++ path)

/-! ## The catalogue -/

/-- A rule could not be evaluated. -/
def ruleSkipped : Rule := ⟨"SOL-X001", .info, none⟩

/-- The items of a file are out of order. -/
def layoutOrder : Rule :=
  ⟨"SOL-L001", .warning, page "style%20guide%20rules/layout_order.md"⟩

/-- An item of a file has no place in the order. -/
def unknownTopLevel : Rule := ⟨"SOL-L002", .info, none⟩

/-- The members of a contract are out of order. -/
def contractOrder : Rule :=
  ⟨"SOL-L003", .warning, page "style%20guide%20rules/check_contract_order.md"⟩

/-- The functions of a contract are out of order. -/
def functionOrder : Rule :=
  ⟨"SOL-L004", .warning, page "style%20guide%20rules/check_function_order.md"⟩

/-- Two contracts are not two blank lines apart. -/
def blankLines : Rule := ⟨"SOL-L005", .info, none⟩

/-- A name has a single character. -/
def shortName : Rule := ⟨"SOL-N001", .info, none⟩

/-- A name is not in the style for its kind. -/
def nameCase : Rule := ⟨"SOL-N002", .info, none⟩

/-- A state variable does not say who may use it. -/
def stateVariableVisibility : Rule :=
  ⟨"SOL-V001", .info, page "style%20guide%20rules/specify_state_variable_visibility.md"⟩

/-- A function does not say who may use it. -/
def functionVisibility : Rule :=
  ⟨"SOL-V002", .info, page "style%20guide%20rules/specify_function_visibility.md"⟩

/-- The leading underscore of a state variable does not go with its visibility. -/
def stateVariableUnderscore : Rule :=
  ⟨"SOL-V003", .info, page "style%20guide%20rules/state-variable-underscore-prefix.md"⟩

/-- The leading underscore of a function does not go with its visibility. -/
def functionUnderscore : Rule :=
  ⟨"SOL-V004", .info, page "style%20guide%20rules/check_function_underscore_prefix.md"⟩

/-- State is written after an external call. -/
def reentrancy : Rule :=
  ⟨"SOL-S001", .critical, page "security%20rules/check_reentrancy.md"⟩

/-- The sender of the whole transaction is asked for. -/
def txOrigin : Rule :=
  ⟨"SOL-S002", .critical, page "security%20rules/avoid_using_tx.origin.md"⟩

/-- The time of the block is asked for. -/
def blockTimestamp : Rule :=
  ⟨"SOL-S003", .warning, page "security%20rules/avoid_using_block_timestamp.md"⟩

/-- The result of an external call is not looked at. -/
def uncheckedCall : Rule :=
  ⟨"SOL-S004", .high, page "security%20rules/check_returned_value.md"⟩

/-- A revert has a message where a custom error would do. -/
def customError : Rule :=
  ⟨"SOL-G001", .warning,
    page "gas%20optimizition%20rules/use_custom_error_instead_of_%60require%60.md"⟩

/-- The message of a revert does not fit one storage word. -/
def longRevertString : Rule := ⟨"SOL-G002", .warning, none⟩

/-- A function uses a state variable often. -/
def cacheStateVariable : Rule :=
  ⟨"SOL-G003", .warning, page "gas%20optimizition%20rules/cache_variable.md"⟩

/-- A parameter that could stay in calldata is in memory. -/
def calldataParameter : Rule :=
  ⟨"SOL-G004", .warning, page "gas%20optimizition%20rules/use_calldata_instead_of_memory.md"⟩

/-- A parameter of an event could be indexed. -/
def indexedEvent : Rule :=
  ⟨"SOL-G005", .warning, page "gas%20optimizition%20rules/indexed_events.md"⟩

/-- A loop asks for the length of a state variable in every round. -/
def cacheArrayLength : Rule :=
  ⟨"SOL-G006", .high, page "gas%20optimizition%20rules/cache_array_length_in_for_loop.md"⟩

/-- A return value has no name. -/
def namedReturn : Rule :=
  ⟨"SOL-G007", .warning, page "gas%20optimizition%20rules/named_return_parameter.md"⟩

/-- One is added or subtracted in a costly way. -/
def incrementIdiom : Rule :=
  ⟨"SOL-G008", .warning,
    page "gas%20optimizition%20rules/increment_and_decrement_by_1_in_one_operation.md"⟩

/-- A type is abbreviated. -/
def typeAbbreviation : Rule := ⟨"SOL-G009", .info, none⟩

/-- A comparison admits equality. -/
def strictComparison : Rule :=
  ⟨"SOL-G010", .warning, page "gas%20optimizition%20rules/check_binary_operation.md"⟩

/-- A connective evaluates its right side on demand. -/
def shortCircuit : Rule :=
  ⟨"SOL-G011", .warning, page "gas%20optimizition%20rules/check_binary_operation.md"⟩

/-- A contract inherits from the more costly token standard. -/
def useErc1155 : Rule :=
  ⟨"SOL-G012", .warning, page "gas%20optimizition%20rules/use_erc-1155_for_batch_operations.md"⟩

/-- Every rule, by family and number. -/
def catalogue : List Rule := [
  ruleSkipped,
  layoutOrder, unknownTopLevel, contractOrder, functionOrder, blankLines,
  shortName, nameCase,
  stateVariableVisibility, functionVisibility, stateVariableUnderscore, functionUnderscore,
  reentrancy, txOrigin, blockTimestamp, uncheckedCall,
  customError, longRevertString, cacheStateVariable, calldataParameter, indexedEvent,
  cacheArrayLength, namedReturn, incrementIdiom, typeAbbreviation, strictComparison, shortCircuit,
  useErc1155]

/-- The text of the note that `rule` could not be evaluated at a location. -/
def skippedMessage (rule : Rule) (location : Location) : String :=
  "unable to evaluate rule " ++ rule.id ++ " at line " ++ toString location.start.line
    ++ ", column " ++ toString location.start.column

end Rule

/-! ## Pages of the naming rule -/

/-- The kinds of name that have a page of their own. -/
inductive NamingPage where
  | stateVariable
  | localVariable
  | function
  | functionParameter
  | contract
  | struct
  | event
  | modifier
  | enum
deriving Repr, DecidableEq, Inhabited

namespace NamingPage

/-- The page for a kind of name. -/
def reference : NamingPage → Option String
  | stateVariable => Rule.page "style%20guide%20rules/check_state_variable_name.md"
  | localVariable => Rule.page "style%20guide%20rules/check_variable_name.md"
  | function => Rule.page "style%20guide%20rules/check_function_name.md"
  | functionParameter => Rule.page "style%20guide%20rules/check_function_parameter_name.md"
  | contract => Rule.page "style%20guide%20rules/check_contract_name.md"
  | struct => Rule.page "style%20guide%20rules/check_struct_name.md"
  | event => Rule.page "style%20guide%20rules/check_event_name.md"
  | modifier => Rule.page "style%20guide%20rules/check_modifier_name.md"
  | enum => Rule.page "style%20guide%20rules/check_enum_name.md"

end NamingPage

end SolidityLint
