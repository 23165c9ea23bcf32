import SolidityLint.Inspection
import SolidityLint.Proofs.Appending

set_option autoImplicit false

/-! # What each rule reports

For each rule there is a name for what can be seen of it: `Check.reentrancy registry f` is what
`Context.checkReentrancy` reports at `f` in a context that has this registry and no findings. Only
three rules ask the registry; what can be seen of the others is seen with an empty one.

Two facts are proved of each. One is that the rule only appends what can be seen of it
(`Check.appends_reentrancy`); these meet in `Context.appends_inspect`, which holds of every
inspection. The other is an equation that reads the findings off the rule as a list
(`Check.reentrancy_eq`), for the proofs that ask what is among them. -/

namespace SolidityLint

open Ast Context

namespace Check

/-! ## External calls -/

/-- What is reported at one statement after the call. -/
def stateWrite (registry : Registry) (f : FunctionDefinition) (s : Statement) : List Diagnostic :=
  found (checkStateWrite f · s) registry

theorem appends_stateWrite (f : FunctionDefinition) (s : Statement) :
    Appends (checkStateWrite f · s) fun registry => stateWrite registry f s := by
  unfold stateWrite checkStateWrite
  cases assignedName s with
  | none => exact .self .nothing
  | some target => exact .self (.asking .report .nothing)

theorem stateWrite_eq (registry : Registry) (f : FunctionDefinition) (s : Statement) :
    stateWrite registry f s = match assignedName s with
      | some target =>
          if registry.contains target then
            [Rule.reentrancy.diagnostic (stateWriteMessage f target) s.loc]
          else []
      | none => [] := by
  unfold stateWrite checkStateWrite
  cases assignedName s with
  | none => rfl
  | some target => exact Appends.found_eq (.asking .report .nothing) registry

/-- What is reported of state that a function writes after a call. -/
def reentrancy (registry : Registry) (f : FunctionDefinition) : List Diagnostic :=
  found (·.checkReentrancy f) registry

theorem appends_reentrancy (f : FunctionDefinition) :
    Appends (·.checkReentrancy f) fun registry => reentrancy registry f := by
  unfold reentrancy checkReentrancy
  cases f.body with
  | none => exact .self .nothing
  | some body => exact .self (.foldl _ (appends_stateWrite f))

theorem reentrancy_eq (registry : Registry) (f : FunctionDefinition) :
    reentrancy registry f = match f.body with
      | none => []
      | some body => (afterLowLevelCall body.statements).flatMap (stateWrite registry f) := by
  unfold reentrancy checkReentrancy
  cases f.body with
  | none => rfl
  | some body => exact Appends.found_eq (.foldl _ (appends_stateWrite f)) registry

/-- What is reported of a declaration from a call. -/
def declaredCallResult (declared : List (Option VariableDeclaration))
    (initialValue : Option Expression) (loc : Location) : List Diagnostic :=
  found (·.checkDeclaredCallResult declared initialValue loc) .empty

theorem appends_declaredCallResult (declared : List (Option VariableDeclaration))
    (initialValue : Option Expression) (loc : Location) :
    Appends (·.checkDeclaredCallResult declared initialValue loc)
      fun _ => declaredCallResult declared initialValue loc := by
  unfold declaredCallResult checkDeclaredCallResult
  split
  · exact .steady (.ite .report .nothing) fun _ => rfl
  · exact .steady .nothing fun _ => rfl

theorem declaredCallResult_eq (declared : List (Option VariableDeclaration))
    (initialValue : Option Expression) (loc : Location) :
    declaredCallResult declared initialValue loc = match initialValue with
      | some (.functionCall callee _ _ _) =>
          if callee.calledMember = some "call" && declared.head?.join.isNone then
            [Rule.uncheckedCall.diagnostic uncapturedFlagMessage loc]
          else []
      | _ => [] := by
  unfold declaredCallResult checkDeclaredCallResult
  cases initialValue with
  | none => rfl
  | some e =>
    cases e with
    | functionCall callee arguments names callLoc =>
      exact Appends.found_eq (.ite .report .nothing) .empty
    | _ => rfl

/-- What is reported of a statement that throws away the result of a call. -/
def discardedCallResult (e : Expression) : List Diagnostic :=
  found (·.checkDiscardedCallResult e) .empty

theorem appends_discardedCallResult (e : Expression) :
    Appends (·.checkDiscardedCallResult e) fun _ => discardedCallResult e := by
  unfold discardedCallResult checkDiscardedCallResult
  split
  · split
    · exact .steady (.ite .report .nothing) fun _ => rfl
    · exact .steady .nothing fun _ => rfl
  · exact .steady .nothing fun _ => rfl

theorem discardedCallResult_eq (e : Expression) :
    discardedCallResult e = match e with
      | .functionCall callee _ _ loc =>
          match callee.calledMember with
          | some member =>
              if member = "call" || member = "send" then
                [Rule.uncheckedCall.diagnostic (discardedResultMessage member) loc]
              else []
          | none => []
      | _ => [] := by
  unfold discardedCallResult checkDiscardedCallResult
  cases e with
  | functionCall callee arguments names loc =>
    dsimp only
    cases callee.calledMember with
    | none => rfl
    | some member => exact Appends.found_eq (.ite .report .nothing) .empty
  | _ => rfl

/-- What is reported of a member of a global. -/
def unsafeGlobal (base : Expression) (member : String) (loc : Location) : List Diagnostic :=
  found (·.checkUnsafeGlobal base member loc) .empty

theorem appends_unsafeGlobal (base : Expression) (member : String) (loc : Location) :
    Appends (·.checkUnsafeGlobal base member loc) fun _ => unsafeGlobal base member loc := by
  unfold unsafeGlobal checkUnsafeGlobal
  split
  · exact .steady .report fun _ => rfl
  · exact .steady .report fun _ => rfl
  · exact .steady .nothing fun _ => rfl

theorem unsafeGlobal_eq (base : Expression) (member : String) (loc : Location) :
    unsafeGlobal base member loc = match base.identifierName, member with
      | some "tx", "origin" => [Rule.txOrigin.diagnostic "avoid using tx.origin" loc]
      | some "block", "timestamp" =>
          [Rule.blockTimestamp.diagnostic "avoid using block.timestamp" loc]
      | _, _ => [] := by
  unfold unsafeGlobal found checkUnsafeGlobal
  split <;> simp_all [Context.report]

/-! ## Cheaper code -/

/-- What is reported of one name in a function body. -/
def cacheName (f : FunctionDefinition) (body : Block) (name : String) : List Diagnostic :=
  let count := (Node.body body).countIdentifier name
  if cacheThreshold < count then
    [Rule.cacheStateVariable.diagnostic (cacheMessage f name count) f.loc]
  else []

/-- What is reported of the state variables that a function uses often. -/
def stateVariableCaching (registry : Registry) (f : FunctionDefinition) : List Diagnostic :=
  found (·.checkStateVariableCaching f) registry

theorem flatMap_heavyNames (registry : Registry) (f : FunctionDefinition) (body : Block) :
    ((heavyNames registry body).flatMap fun (name, count) =>
        [Rule.cacheStateVariable.diagnostic (cacheMessage f name count) f.loc])
      = registry.names.flatMap (cacheName f body) := by
  unfold heavyNames
  induction registry.names with
  | nil => rfl
  | cons name rest ih =>
    rw [List.map_cons, List.filter_cons, List.flatMap_cons, ← ih, cacheName]
    by_cases h : cacheThreshold < (Node.body body).countIdentifier name <;> simp [h]

theorem appends_stateVariableCaching (f : FunctionDefinition) :
    Appends (·.checkStateVariableCaching f) fun registry => stateVariableCaching registry f := by
  unfold stateVariableCaching checkStateVariableCaching
  cases f.body with
  | none => exact .self .nothing
  | some body =>
    -- The names are read before the loop, so the loop is the same whatever it reports.
    exact .self (.reading (f := fun registry c => (heavyNames registry body).foldl _ c)
      fun registry => .foldl _ fun _ => .report)

theorem stateVariableCaching_eq (registry : Registry) (f : FunctionDefinition) :
    stateVariableCaching registry f = match f.body with
      | none => []
      | some body => registry.names.flatMap (cacheName f body) := by
  unfold stateVariableCaching checkStateVariableCaching
  cases f.body with
  | none => rfl
  | some body =>
    refine Eq.trans ?_ (flatMap_heavyNames registry f body)
    exact Appends.found_eq (.foldl (heavyNames registry body) fun _ => .report) registry

/-- What is reported of a loop condition. -/
def loopLengthCaching (registry : Registry) (condition : Option Expression) (loc : Location) :
    List Diagnostic :=
  found (·.checkLoopLengthCaching condition loc) registry

theorem appends_loopLengthCaching (condition : Option Expression) (loc : Location) :
    Appends (·.checkLoopLengthCaching condition loc)
      fun registry => loopLengthCaching registry condition loc := by
  unfold loopLengthCaching checkLoopLengthCaching
  cases loopArray? condition with
  | none => exact .self .nothing
  | some array => exact .self (.asking .report .nothing)

theorem loopLengthCaching_eq (registry : Registry) (condition : Option Expression)
    (loc : Location) :
    loopLengthCaching registry condition loc = match loopArray? condition with
      | some array =>
          if registry.contains array then
            [Rule.cacheArrayLength.diagnostic (cacheLengthMessage array) loc]
          else []
      | none => [] := by
  unfold loopLengthCaching checkLoopLengthCaching
  cases loopArray? condition with
  | none => rfl
  | some array => exact Appends.found_eq (.asking .report .nothing) registry

/-- What is reported of the parameters that could stay in calldata. -/
def calldataParameters (f : FunctionDefinition) : List Diagnostic :=
  found (·.checkCalldataParameters f) .empty

theorem appends_calldataParameters (f : FunctionDefinition) :
    Appends (·.checkCalldataParameters f) fun _ => calldataParameters f := by
  unfold calldataParameters checkCalldataParameters
  cases f.body with
  | none => exact .steady .nothing fun _ => rfl
  | some body => exact .steady (.foldl _ fun v => .ite .report .nothing) fun _ => rfl

theorem calldataParameters_eq (f : FunctionDefinition) :
    calldataParameters f = match f.body with
      | none => []
      | some body => f.parameters.flatMap fun v =>
          if v.dataLocation = some .memory && !isAssignedIn body (v.name.getD "") then
            [Rule.calldataParameter.diagnostic (calldataMessage (v.name.getD "")) v.loc]
          else [] := by
  unfold calldataParameters checkCalldataParameters
  cases f.body with
  | none => rfl
  | some body => exact Appends.found_eq (.foldl _ fun v => .ite .report .nothing) .empty

/-- What is reported of return values without a name. -/
def namedReturns (f : FunctionDefinition) : List Diagnostic :=
  found (·.checkNamedReturns f) .empty

theorem appends_namedReturns (f : FunctionDefinition) :
    Appends (·.checkNamedReturns f) fun _ => namedReturns f :=
  .steady (.foldl _ fun _ => .ite .report .nothing) fun _ => rfl

theorem namedReturns_eq (f : FunctionDefinition) :
    namedReturns f = f.returnParameters.flatMap fun v =>
      if v.name.isNone then [Rule.namedReturn.diagnostic (namedReturnMessage f) v.loc] else [] :=
  Appends.found_eq (.foldl _ fun _ => .ite .report .nothing) .empty

/-- What is reported of the parameters of an event. -/
def indexedEvents (d : EventDefinition) : List Diagnostic :=
  found (·.checkIndexedEvents d) .empty

theorem appends_indexedEvents (d : EventDefinition) :
    Appends (·.checkIndexedEvents d) fun _ => indexedEvents d :=
  .steady (.foldl _ fun _ => .ite .report .nothing) fun _ => rfl

theorem indexedEvents_eq (d : EventDefinition) :
    indexedEvents d = d.parameters.flatMap fun v =>
      if !v.isIndexed && isCheapToIndex v.typeName then
        [Rule.indexedEvent.diagnostic (indexedEventMessage d v) v.loc]
      else [] :=
  Appends.found_eq (.foldl _ fun _ => .ite .report .nothing) .empty

/-- What is reported of the type of a declaration. -/
def typeAbbreviation (v : VariableDeclaration) : List Diagnostic :=
  found (·.checkTypeAbbreviation v) .empty

theorem appends_typeAbbreviation (v : VariableDeclaration) :
    Appends (·.checkTypeAbbreviation v) fun _ => typeAbbreviation v :=
  .steady (.ite .report .nothing) fun _ => rfl

theorem typeAbbreviation_eq (v : VariableDeclaration) :
    typeAbbreviation v =
      if v.typeName.name = "uint" then
        [Rule.typeAbbreviation.diagnostic (abbreviationMessage v) v.loc]
      else [] :=
  Appends.found_eq (.ite .report .nothing) .empty

/-- What is reported of a contract that is inherited from. -/
def erc721Inheritance (s : InheritanceSpecifier) : List Diagnostic :=
  found (·.checkErc721Inheritance s) .empty

theorem appends_erc721Inheritance (s : InheritanceSpecifier) :
    Appends (·.checkErc721Inheritance s) fun _ => erc721Inheritance s :=
  .steady (.ite .report .nothing) fun _ => rfl

theorem erc721Inheritance_eq (s : InheritanceSpecifier) :
    erc721Inheritance s =
      if s.baseName = "ERC721" then
        [Rule.useErc1155.diagnostic "ERC1155 is cheaper than ERC721 for batch operations" s.loc]
      else [] :=
  Appends.found_eq (.ite .report .nothing) .empty

/-- What is reported of an operator. -/
def comparisonOperator (legacy : Bool) (operator : String) (loc : Location) : List Diagnostic :=
  found (·.checkComparisonOperator legacy operator loc) .empty

/-- What is reported of a comparison that admits equality. -/
def strictComparison (operator : String) (loc : Location) : List Diagnostic :=
  found (·.checkStrictComparison operator loc) .empty

theorem appends_strictComparison (operator : String) (loc : Location) :
    Appends (·.checkStrictComparison operator loc) fun _ => strictComparison operator loc := by
  unfold strictComparison checkStrictComparison
  cases strictComparison? operator with
  | none => exact .steady .nothing fun _ => rfl
  | some better => exact .steady .report fun _ => rfl

theorem strictComparison_eq (operator : String) (loc : Location) :
    strictComparison operator loc = match strictComparison? operator with
      | some better =>
          [Rule.strictComparison.diagnostic (strictComparisonMessage better operator) loc]
      | none => [] := by
  unfold strictComparison checkStrictComparison
  cases strictComparison? operator with
  | none => rfl
  | some better => rfl

theorem appends_noteShortCircuit (loc : Location) (notes : Nat) :
    Appends (·.noteShortCircuit loc notes)
      fun _ => List.replicate notes (Rule.shortCircuit.diagnostic shortCircuitMessage loc) := by
  induction notes with
  | zero => exact .nothing
  | succ notes ih => exact Appends.report.comp ih

theorem appends_comparisonOperator (legacy : Bool) (operator : String) (loc : Location) :
    Appends (·.checkComparisonOperator legacy operator loc)
      fun _ => comparisonOperator legacy operator loc :=
  .steady ((appends_strictComparison operator loc).comp (appends_noteShortCircuit loc _))
    fun _ => rfl

theorem comparisonOperator_eq (legacy : Bool) (operator : String) (loc : Location) :
    comparisonOperator legacy operator loc
      = strictComparison operator loc
        ++ List.replicate (shortCircuitNotes legacy operator)
          (Rule.shortCircuit.diagnostic shortCircuitMessage loc) :=
  Appends.found_eq
    ((appends_strictComparison operator loc).comp (appends_noteShortCircuit loc _)) .empty

/-! ## Increments and decrements -/

/-- What is reported of an expression that adds or subtracts one. -/
def increment (e : Expression) : List Diagnostic :=
  found (·.checkIncrement e) .empty

theorem appends_increment (e : Expression) :
    Appends (·.checkIncrement e) fun _ => increment e := by
  unfold increment checkIncrement
  cases incrementIdiom? e with
  | none => exact .steady .nothing fun _ => rfl
  | some idiom => exact .steady .report fun _ => rfl

theorem increment_eq (e : Expression) :
    increment e = match incrementIdiom? e with
      | some idiom => [Rule.incrementIdiom.diagnostic idiom.message e.loc]
      | none => [] := by
  unfold increment checkIncrement
  cases incrementIdiom? e with
  | none => rfl
  | some idiom => rfl

/-! ## Order and spacing of declarations -/

/-- What is reported of the items from that position on, after one of category `previous`. -/
def layoutOrderFrom (position : Nat) (previous : Option LayoutCategory)
    (items : List TopLevelItem) : List Diagnostic :=
  found (·.checkLayoutOrderFrom position previous items) .empty

theorem appends_layoutOrderFrom (position : Nat) (previous : Option LayoutCategory)
    (items : List TopLevelItem) :
    Appends (·.checkLayoutOrderFrom position previous items)
      fun _ => layoutOrderFrom position previous items := by
  induction items generalizing position previous with
  | nil => exact .steady .nothing fun _ => rfl
  | cons item rest ih =>
    unfold layoutOrderFrom checkLayoutOrderFrom
    split
    · exact .steady .report fun _ => rfl
    · split
      · exact .steady (.ite .report (ih ..)) fun _ => rfl
      · exact .steady (ih ..) fun _ => rfl

theorem layoutOrderFrom_cons (position : Nat) (previous : Option LayoutCategory)
    (item : TopLevelItem) (rest : List TopLevelItem) :
    layoutOrderFrom position previous (item :: rest) = match LayoutCategory.ofItem? item with
      | none =>
          [Rule.unknownTopLevel.diagnostic (itemUnknownMessage position item.toNode)
            item.toNode.loc]
      | some category =>
          match previous with
          | some before =>
              if category.rank < before.rank then
                [Rule.layoutOrder.diagnostic (itemOutOfOrderMessage position category before)
                  item.toNode.loc]
              else layoutOrderFrom (position + 1) (some category) rest
          | none => layoutOrderFrom (position + 1) (some category) rest := by
  show found (·.checkLayoutOrderFrom position previous (item :: rest)) .empty = _
  simp only [checkLayoutOrderFrom]
  cases LayoutCategory.ofItem? item with
  | none => rfl
  | some category =>
    cases previous with
    | none => rfl
    | some before => exact Appends.found_eq (.ite .report (appends_layoutOrderFrom ..)) .empty

/-- What is reported of the order of the items of a file. -/
def layoutOrder (unit : SourceUnit) : List Diagnostic :=
  found (·.checkLayoutOrder unit) .empty

theorem appends_layoutOrder (unit : SourceUnit) :
    Appends (·.checkLayoutOrder unit) fun _ => layoutOrder unit :=
  appends_layoutOrderFrom 0 none unit.items

/-- What is reported of the members that follow one of category `previous`. -/
def contractOrderFrom (contract : String) (previous : Option MemberCategory)
    (members : List Member) : List Diagnostic :=
  found (·.checkContractOrderFrom contract previous members) .empty

theorem appends_contractOrderFrom (contract : String) (previous : Option MemberCategory)
    (members : List Member) :
    Appends (·.checkContractOrderFrom contract previous members)
      fun _ => contractOrderFrom contract previous members := by
  induction members generalizing previous with
  | nil => exact .steady .nothing fun _ => rfl
  | cons member rest ih =>
    unfold contractOrderFrom checkContractOrderFrom
    split
    · exact .steady (ih ..) fun _ => rfl
    · split
      · exact .steady (.ite .report (ih ..)) fun _ => rfl
      · exact .steady (ih ..) fun _ => rfl

theorem contractOrderFrom_cons (contract : String) (previous : Option MemberCategory)
    (member : Member) (rest : List Member) :
    contractOrderFrom contract previous (member :: rest)
      = match MemberCategory.ofMember? member with
        | none => contractOrderFrom contract previous rest
        | some category =>
            match previous with
            | some before =>
                if category.rank < before.rank then
                  [Rule.contractOrder.diagnostic
                    (memberOutOfOrderMessage contract category before) member.toNode.loc]
                else contractOrderFrom contract (some category) rest
            | none => contractOrderFrom contract (some category) rest := by
  show found (·.checkContractOrderFrom contract previous (member :: rest)) .empty = _
  simp only [checkContractOrderFrom]
  cases MemberCategory.ofMember? member with
  | none => rfl
  | some category =>
    cases previous with
    | none => rfl
    | some before => exact Appends.found_eq (.ite .report (appends_contractOrderFrom ..)) .empty

/-- What is reported of the order of the members of a contract. -/
def contractOrder (contract : ContractDefinition) : List Diagnostic :=
  found (·.checkContractOrder contract) .empty

theorem appends_contractOrder (contract : ContractDefinition) :
    Appends (·.checkContractOrder contract) fun _ => contractOrder contract :=
  appends_contractOrderFrom contract.name none contract.members

/-- What is reported of the order of the functions of a contract. -/
def functionOrder (contract : ContractDefinition) : List Diagnostic :=
  found (·.checkFunctionOrder contract) .empty

theorem appends_functionOrder (contract : ContractDefinition) :
    Appends (·.checkFunctionOrder contract) fun _ => functionOrder contract :=
  .steady (.ite .nothing .report) fun _ => rfl

theorem functionOrder_eq (contract : ContractDefinition) :
    functionOrder contract =
      if ascending (contract.functions.map functionRank) then []
      else [Rule.functionOrder.diagnostic (functionOrderMessage contract) contract.loc] :=
  Appends.found_eq (.ite .nothing .report) .empty

/-- What is reported of the lines between two contracts. -/
def blankLinesBetween (previous next : ContractDefinition) : List Diagnostic :=
  found (·.checkBlankLinesBetween previous next) .empty

theorem appends_blankLinesBetween (previous next : ContractDefinition) :
    Appends (·.checkBlankLinesBetween previous next) fun _ => blankLinesBetween previous next :=
  .steady (.ite .nothing .report) fun _ => rfl

theorem blankLinesBetween_eq (previous next : ContractDefinition) :
    blankLinesBetween previous next =
      if next.loc.start.line = previous.loc.stop.line + 3 then []
      else [Rule.blankLines.diagnostic (blankLinesMessage previous next)
        ⟨previous.loc.stop, next.loc.start⟩] :=
  Appends.found_eq (.ite .nothing .report) .empty

/-- What is reported of the lines between any two neighbours. -/
def blankLinesAmong (contracts : List ContractDefinition) : List Diagnostic :=
  found (·.checkBlankLinesAmong contracts) .empty

theorem appends_blankLinesAmong (contracts : List ContractDefinition) :
    Appends (·.checkBlankLinesAmong contracts) fun _ => blankLinesAmong contracts := by
  induction contracts with
  | nil => exact .steady .nothing fun _ => rfl
  | cons previous rest ih =>
    cases rest with
    | nil => exact .steady .nothing fun _ => rfl
    | cons next rest =>
      exact .steady ((appends_blankLinesBetween previous next).comp ih) fun _ => rfl

theorem blankLinesAmong_cons_cons (previous next : ContractDefinition)
    (rest : List ContractDefinition) :
    blankLinesAmong (previous :: next :: rest)
      = blankLinesBetween previous next ++ blankLinesAmong (next :: rest) :=
  Appends.found_eq
    ((appends_blankLinesBetween previous next).comp (appends_blankLinesAmong (next :: rest))) .empty

/-- What is reported of the lines between the contracts of a file. -/
def blankLines (unit : SourceUnit) : List Diagnostic :=
  found (·.checkBlankLines unit) .empty

theorem appends_blankLines (unit : SourceUnit) :
    Appends (·.checkBlankLines unit) fun _ => blankLines unit :=
  appends_blankLinesAmong (contractsOf unit)

/-! ## Naming conventions -/

section Naming

variable (kind name : String) (style : CaseStyle) (reference : Option String) (loc : Location)

/-- What is reported of a name. -/
def judgeName : List Diagnostic :=
  found (·.checkName kind name style reference loc) .empty

theorem appends_nameLength :
    Appends (·.checkNameLength kind name loc) fun _ =>
      if name.length < 2 then [Rule.shortName.diagnostic (shortNameMessage kind name) loc]
      else [] :=
  .ite .report .nothing

theorem appends_nameCase :
    Appends (·.checkNameCase kind name style reference loc) fun _ =>
      if style.admits name then []
      else [{ Rule.nameCase with reference }.diagnostic (nameCaseMessage kind name style) loc] :=
  .ite .nothing .report

theorem appends_judgeName :
    Appends (·.checkName kind name style reference loc)
      fun _ => judgeName kind name style reference loc :=
  .steady (.ite .skipped ((appends_nameLength ..).comp (appends_nameCase ..))) fun _ => rfl

theorem judgeName_eq :
    judgeName kind name style reference loc =
      if name.isEmpty then [Rule.nameCase.skipped loc]
      else
        (if name.length < 2 then [Rule.shortName.diagnostic (shortNameMessage kind name) loc]
          else [])
        ++ if style.admits (Text.dropLast '_' name) then []
          else [{ Rule.nameCase with reference }.diagnostic
            (nameCaseMessage kind (Text.dropLast '_' name) style) loc] :=
  Appends.found_eq (.ite .skipped ((appends_nameLength ..).comp (appends_nameCase ..))) .empty

end Naming

/-- What is reported of the name of a state variable. -/
def stateVariableName (v : VariableDeclaration) : List Diagnostic :=
  found (·.checkStateVariableName v) .empty

theorem appends_stateVariableName (v : VariableDeclaration) :
    Appends (·.checkStateVariableName v) fun _ => stateVariableName v := by
  unfold stateVariableName checkStateVariableName
  cases v.name with
  | none => exact .steady .skipped fun _ => rfl
  | some n =>
    exact .steady (.ite (appends_judgeName ..) (appends_judgeName ..)) fun _ => rfl

theorem stateVariableName_eq (v : VariableDeclaration) :
    stateVariableName v = match v.name with
      | none => [Rule.nameCase.skipped v.loc]
      | some n =>
          if v.isConstant then judgeName "constant variable" n .upperCase none v.loc
          else
            judgeName "state variable" (withoutUnderscore n) .mixedCase
              NamingPage.stateVariable.reference v.loc := by
  unfold stateVariableName checkStateVariableName
  cases v.name with
  | none => rfl
  | some n =>
    exact Appends.found_eq (.ite (appends_judgeName ..) (appends_judgeName ..)) .empty

/-- What is reported of the name of a local variable. -/
def localVariableName (v : VariableDeclaration) : List Diagnostic :=
  found (·.checkLocalVariableName v) .empty

theorem appends_localVariableName (v : VariableDeclaration) :
    Appends (·.checkLocalVariableName v) fun _ => localVariableName v := by
  unfold localVariableName checkLocalVariableName
  cases v.name with
  | none => exact .steady .nothing fun _ => rfl
  | some n =>
    exact .steady (.ite (appends_judgeName ..) (appends_judgeName ..)) fun _ => rfl

theorem localVariableName_eq (v : VariableDeclaration) :
    localVariableName v = match v.name with
      | none => []
      | some n =>
          if v.isConstant then judgeName "constant variable" n .upperCase none v.loc
          else
            judgeName "variable" n .mixedCase NamingPage.localVariable.reference v.loc := by
  unfold localVariableName checkLocalVariableName
  cases v.name with
  | none => rfl
  | some n =>
    exact Appends.found_eq (.ite (appends_judgeName ..) (appends_judgeName ..)) .empty

/-- What is reported of the names in a declaration statement. -/
def localVariableNames (declared : List (Option VariableDeclaration)) : List Diagnostic :=
  found (·.checkLocalVariableNames declared) .empty

theorem appends_localVariableNames (declared : List (Option VariableDeclaration)) :
    Appends (·.checkLocalVariableNames declared) fun _ => localVariableNames declared :=
  .steady (.foldl _ appends_localVariableName) fun _ => rfl

theorem localVariableNames_eq (declared : List (Option VariableDeclaration)) :
    localVariableNames declared = (declared.filterMap id).flatMap localVariableName :=
  Appends.found_eq (.foldl _ appends_localVariableName) .empty

/-- What is reported of the name of a function. -/
def functionName (f : FunctionDefinition) : List Diagnostic :=
  found (·.checkFunctionName f) .empty

theorem appends_functionName (f : FunctionDefinition) :
    Appends (·.checkFunctionName f) fun _ => functionName f :=
  .steady (.ite (appends_judgeName ..) .nothing) fun _ => rfl

theorem functionName_eq (f : FunctionDefinition) :
    functionName f =
      if f.kind = .function then
        judgeName "function" (withoutUnderscore (f.name.getD "")) .mixedCase
          NamingPage.function.reference f.loc
      else [] :=
  Appends.found_eq (.ite (appends_judgeName ..) .nothing) .empty

/-- What is reported of the name of a parameter. -/
def parameterName (v : VariableDeclaration) : List Diagnostic :=
  found (·.checkParameterName v) .empty

theorem appends_parameterName (v : VariableDeclaration) :
    Appends (·.checkParameterName v) fun _ => parameterName v := by
  unfold parameterName checkParameterName
  cases v.name with
  | none => exact .steady .nothing fun _ => rfl
  | some n => exact .steady (appends_judgeName ..) fun _ => rfl

theorem parameterName_eq (v : VariableDeclaration) :
    parameterName v = match v.name with
      | none => []
      | some n =>
          judgeName "function parameter" (withoutUnderscore n) .mixedCase
            NamingPage.functionParameter.reference v.loc := by
  unfold parameterName checkParameterName
  cases v.name with
  | none => rfl
  | some n => rfl

/-- What is reported of the names of parameters. -/
def parameterNames (parameters : List VariableDeclaration) : List Diagnostic :=
  found (·.checkParameterNames parameters) .empty

theorem appends_parameterNames (parameters : List VariableDeclaration) :
    Appends (·.checkParameterNames parameters) fun _ => parameterNames parameters :=
  .steady (.foldl _ appends_parameterName) fun _ => rfl

theorem parameterNames_eq (parameters : List VariableDeclaration) :
    parameterNames parameters = parameters.flatMap parameterName :=
  Appends.found_eq (.foldl _ appends_parameterName) .empty

/-! ## Revert messages -/

/-- What is reported of the message of a revert. -/
def messageLength (message : Option Expression) : List Diagnostic :=
  found (·.checkMessageLength message) .empty

theorem appends_messageLength (message : Option Expression) :
    Appends (·.checkMessageLength message) fun _ => messageLength message := by
  unfold messageLength checkMessageLength
  split
  · exact .steady .nothing fun _ => rfl
  · exact .steady (.ite .report .nothing) fun _ => rfl
  · exact .steady .skipped fun _ => rfl

theorem messageLength_eq (message : Option Expression) :
    messageLength message = match message with
      | none => []
      | some (.literal .string value _ loc) =>
          if longMessage ≤ decodedLength value.toList then
            [Rule.longRevertString.diagnostic
              (longMessageAdvice (decodedLength value.toList)) loc]
          else []
      | some e => [Rule.longRevertString.skipped e.loc] := by
  unfold messageLength checkMessageLength
  cases message with
  | none => rfl
  | some e =>
    cases e with
    | literal kind value unit loc =>
      cases kind with
      | string => exact Appends.found_eq (.ite .report .nothing) .empty
      | _ => rfl
    | _ => rfl

/-- What is reported of an expression that stands as a statement. -/
def customError (e : Expression) : List Diagnostic :=
  found (·.checkCustomError e) .empty

theorem appends_customError (e : Expression) :
    Appends (·.checkCustomError e) fun _ => customError e := by
  unfold customError checkCustomError
  split
  · split
    · exact .steady (Appends.report.comp (appends_messageLength _)) fun _ => rfl
    · exact .steady (.ite .nothing (Appends.report.comp (appends_messageLength _))) fun _ => rfl
    · exact .steady .nothing fun _ => rfl
  · exact .steady .nothing fun _ => rfl

theorem customError_eq (e : Expression) :
    customError e = match e with
      | .functionCall callee arguments _ loc =>
          match callee.calledFunction with
          | some "require" =>
              Rule.customError.diagnostic "use a custom error instead of require" loc
                :: messageLength arguments[1]?
          | some "revert" =>
              if arguments.isEmpty then []
              else Rule.customError.diagnostic "use a custom error instead of a revert string" loc
                :: messageLength arguments[0]?
          | _ => []
      | _ => [] := by
  unfold customError checkCustomError
  cases e with
  | functionCall callee arguments names loc =>
    dsimp only
    generalize callee.calledFunction = called
    split
    · exact Appends.found_eq (Appends.report.comp (appends_messageLength _)) .empty
    · exact Appends.found_eq (.ite .nothing (Appends.report.comp (appends_messageLength _))) .empty
    · simp_all [found]
  | _ => rfl

/-! ## Visibility and the leading underscore -/

/-- What is reported of state variables that do not say who may use them. -/
def stateVariableVisibility (d : StateVariableDeclaration) : List Diagnostic :=
  found (·.checkStateVariableVisibility d) .empty

theorem appends_stateVariableVisibility (d : StateVariableDeclaration) :
    Appends (·.checkStateVariableVisibility d) fun _ => stateVariableVisibility d :=
  .steady (.foldl _ fun _ => .ite .report .nothing) fun _ => rfl

theorem stateVariableVisibility_eq (d : StateVariableDeclaration) :
    stateVariableVisibility d = d.declared.flatMap fun v =>
      if v.isStateVariable && v.visibility = .unspecified then
        [Rule.stateVariableVisibility.diagnostic (variableVisibilityMessage v) v.loc]
      else [] :=
  Appends.found_eq (.foldl _ fun _ => .ite .report .nothing) .empty

/-- What is reported of a function that does not say who may use it. -/
def functionVisibility (f : FunctionDefinition) : List Diagnostic :=
  found (·.checkFunctionVisibility f) .empty

theorem appends_functionVisibility (f : FunctionDefinition) :
    Appends (·.checkFunctionVisibility f) fun _ => functionVisibility f :=
  .steady (.ite .report .nothing) fun _ => rfl

theorem functionVisibility_eq (f : FunctionDefinition) :
    functionVisibility f =
      if f.visibility = .unspecified && !f.isConstructor && !f.isFree then
        [Rule.functionVisibility.diagnostic (functionVisibilityMessage f) f.loc]
      else [] :=
  Appends.found_eq (.ite .report .nothing) .empty

/-- What is reported of the underscore of a state variable. -/
def stateVariableUnderscore (v : VariableDeclaration) : List Diagnostic :=
  found (·.checkStateVariableUnderscore v) .empty

theorem appends_stateVariableUnderscore (v : VariableDeclaration) :
    Appends (·.checkStateVariableUnderscore v) fun _ => stateVariableUnderscore v := by
  unfold stateVariableUnderscore checkStateVariableUnderscore
  cases v.name with
  | none => exact .steady .nothing fun _ => rfl
  | some name =>
    exact .steady (.ite .nothing (.ite .report (.ite .report .nothing))) fun _ => rfl

theorem stateVariableUnderscore_eq (v : VariableDeclaration) :
    stateVariableUnderscore v = match v.name with
      | none => []
      | some name =>
          if !v.isStateVariable then []
          else if !(v.visibility = .pub) && !Text.startsWith '_' name then
            [Rule.stateVariableUnderscore.diagnostic
              (missingUnderscoreMessage "state variable" name) v.loc]
          else if v.visibility = .pub && Text.startsWith '_' name then
            [Rule.stateVariableUnderscore.diagnostic
              (strayUnderscoreMessage "public state variable" name) v.loc]
          else [] := by
  unfold stateVariableUnderscore checkStateVariableUnderscore
  cases v.name with
  | none => rfl
  | some name =>
    exact Appends.found_eq (.ite .nothing (.ite .report (.ite .report .nothing))) .empty

/-- What is reported of the underscore of a function. -/
def functionUnderscore (f : FunctionDefinition) : List Diagnostic :=
  found (·.checkFunctionUnderscore f) .empty

theorem appends_functionUnderscore (f : FunctionDefinition) :
    Appends (·.checkFunctionUnderscore f) fun _ => functionUnderscore f := by
  unfold functionUnderscore checkFunctionUnderscore
  cases f.name with
  | none => exact .steady .nothing fun _ => rfl
  | some name =>
    exact .steady (.ite .nothing (.ite .report (.ite .report .nothing))) fun _ => rfl

theorem functionUnderscore_eq (f : FunctionDefinition) :
    functionUnderscore f = match f.name with
      | none => []
      | some name =>
          if f.isFree then []
          else
            let isHidden := f.visibility = .priv || f.visibility = .internal
            if isHidden && !Text.startsWith '_' name then
              [Rule.functionUnderscore.diagnostic (missingUnderscoreMessage "function" name) f.loc]
            else if !isHidden && Text.startsWith '_' name then
              [Rule.functionUnderscore.diagnostic
                (strayUnderscoreMessage "public/external function" name) f.loc]
            else [] := by
  unfold functionUnderscore checkFunctionUnderscore
  cases f.name with
  | none => rfl
  | some name =>
    exact Appends.found_eq (.ite .nothing (.ite .report (.ite .report .nothing))) .empty

end Check

/-! ## Inspections -/

/-- What is reported by an inspection. -/
def Inspection.run (options : Options) (registry : Registry) : Inspection → List Diagnostic
  | layoutOrder u => Check.layoutOrder u
  | blankLines u => Check.blankLines u
  | contractOrder d => Check.contractOrder d
  | functionOrder d => Check.functionOrder d
  | contractName d =>
      Check.judgeName d.kind.label d.name .capWord NamingPage.contract.reference d.loc
  | stateVariableVisibility d => Check.stateVariableVisibility d
  | stateVariableUnderscore v => Check.stateVariableUnderscore v
  | stateVariableName v => Check.stateVariableName v
  | typeAbbreviation v => Check.typeAbbreviation v
  | functionVisibility f => Check.functionVisibility f
  | functionUnderscore f => Check.functionUnderscore f
  | functionName f => Check.functionName f
  | reentrancy f => Check.reentrancy registry f
  | stateVariableCaching f => Check.stateVariableCaching registry f
  | calldataParameters f => Check.calldataParameters f
  | namedReturns f => Check.namedReturns f
  | parameterNames parameters => Check.parameterNames parameters
  | localVariableNames declared => Check.localVariableNames declared
  | declaredCallResult declared initialValue loc =>
      Check.declaredCallResult declared initialValue loc
  | structName d => Check.judgeName "struct" d.name .capWord NamingPage.struct.reference d.loc
  | eventName d => Check.judgeName "event" d.name .capWord NamingPage.event.reference d.loc
  | indexedEvents d => Check.indexedEvents d
  | enumName d => Check.judgeName "enum" d.name .capWord NamingPage.enum.reference d.loc
  | modifierName d =>
      Check.judgeName "modifier" d.name .mixedCase NamingPage.modifier.reference d.loc
  | unsafeGlobal base member loc => Check.unsafeGlobal base member loc
  | discardedCallResult e => Check.discardedCallResult e
  | customError e => Check.customError e
  | loopLengthCaching condition loc => Check.loopLengthCaching registry condition loc
  | increment e => Check.increment e
  | comparisonOperator operator loc =>
      Check.comparisonOperator options.legacyOperators operator loc
  | erc721Inheritance s => Check.erc721Inheritance s

/-- **Every inspection only appends.** It leaves the registry alone, keeps the findings so far and
    appends what can be seen of its rule, whatever these findings are. -/
theorem Context.appends_inspect (options : Options) (i : Inspection) :
    Appends (inspect options · i) fun registry => i.run options registry := by
  cases i with
  | layoutOrder u => exact Check.appends_layoutOrder u
  | blankLines u => exact Check.appends_blankLines u
  | contractOrder d => exact Check.appends_contractOrder d
  | functionOrder d => exact Check.appends_functionOrder d
  | contractName d => exact Check.appends_judgeName ..
  | stateVariableVisibility d => exact Check.appends_stateVariableVisibility d
  | stateVariableUnderscore v => exact Check.appends_stateVariableUnderscore v
  | stateVariableName v => exact Check.appends_stateVariableName v
  | typeAbbreviation v => exact Check.appends_typeAbbreviation v
  | functionVisibility f => exact Check.appends_functionVisibility f
  | functionUnderscore f => exact Check.appends_functionUnderscore f
  | functionName f => exact Check.appends_functionName f
  | reentrancy f => exact Check.appends_reentrancy f
  | stateVariableCaching f => exact Check.appends_stateVariableCaching f
  | calldataParameters f => exact Check.appends_calldataParameters f
  | namedReturns f => exact Check.appends_namedReturns f
  | parameterNames parameters => exact Check.appends_parameterNames parameters
  | localVariableNames declared => exact Check.appends_localVariableNames declared
  | declaredCallResult declared initialValue loc =>
    exact Check.appends_declaredCallResult declared initialValue loc
  | structName d => exact Check.appends_judgeName ..
  | eventName d => exact Check.appends_judgeName ..
  | indexedEvents d => exact Check.appends_indexedEvents d
  | enumName d => exact Check.appends_judgeName ..
  | modifierName d => exact Check.appends_judgeName ..
  | unsafeGlobal base member loc => exact Check.appends_unsafeGlobal base member loc
  | discardedCallResult e => exact Check.appends_discardedCallResult e
  | customError e => exact Check.appends_customError e
  | loopLengthCaching condition loc => exact Check.appends_loopLengthCaching condition loc
  | increment e => exact Check.appends_increment e
  | comparisonOperator operator loc =>
    exact Check.appends_comparisonOperator options.legacyOperators operator loc
  | erc721Inheritance s => exact Check.appends_erc721Inheritance s

end SolidityLint
