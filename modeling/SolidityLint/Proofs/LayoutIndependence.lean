import Mathlib.Data.List.Forall2
import SolidityLint.Proofs.Provenance
import SolidityLint.Proofs.Unlocated

set_option autoImplicit false

/-! # Findings do not depend on the layout

Of the locations in a tree the checks use one thing only: how many lines lie between two contracts.
Everywhere else a location is copied into the finding, or quoted in the note that a rule was
skipped. So two trees that differ in their locations alone get the same findings, each at its own
place, once those about blank lines are set aside.

`SameFindings` compares two lists by what they say (`Diagnostic.content`), and each check has one
lemma: it finds the same in a tree and in the unlocated tree. `Context.SameFindings` carries the
comparison through the pass; the step lemma is `Engine.sameFindings_visit`, the run lemma
`Engine.sameFindings_foldl_visit`. -/

namespace SolidityLint

open Ast

/-! ## What a finding says -/

namespace Diagnostic

/-- The same finding, each at its own place: only the note that a rule was skipped may differ in its
    message, which quotes the place. -/
structure SameFinding (d e : Diagnostic) : Prop where
  ruleId : d.ruleId = e.ruleId
  severity : d.severity = e.severity
  reference : d.reference = e.reference
  message : d.ruleId ≠ Rule.ruleSkipped.id → d.message = e.message

/-- What a finding says: its rule as it is reported, and its message unless that quotes a place. -/
def content (d : Diagnostic) : Rule × Option String :=
  (⟨d.ruleId, d.severity, d.reference⟩,
    if d.ruleId = Rule.ruleSkipped.id then none else some d.message)

theorem sameFinding_of_content_eq {d e : Diagnostic} (h : d.content = e.content) :
    d.SameFinding e := by
  obtain ⟨hrule, hmessage⟩ := Prod.mk.inj h
  obtain ⟨hid, hseverity, hreference⟩ := Rule.mk.inj hrule
  refine ⟨hid, hseverity, hreference, fun hne => ?_⟩
  rw [if_neg hne, if_neg (hid ▸ hne)] at hmessage
  exact Option.some.inj hmessage

end Diagnostic

theorem Rule.content_skipped (rule : Rule) (loc : Location) :
    (rule.skipped loc).content = (Rule.ruleSkipped, none) := by
  simp [Rule.skipped, Rule.diagnostic, Diagnostic.content]

/-! ## The same findings -/

/-- The findings that are not about blank lines. -/
def exceptBlankLines (found : List Diagnostic) : List Diagnostic :=
  found.filter fun d => d.ruleId != Rule.blankLines.id

/-- Both lists say the same, those findings aside that are about blank lines. -/
def SameFindings (found found' : List Diagnostic) : Prop :=
  (exceptBlankLines found).map Diagnostic.content
    = (exceptBlankLines found').map Diagnostic.content

namespace SameFindings

variable {found found' more more' : List Diagnostic} {rule : Rule} {message : String}
  {loc loc' : Location}

theorem forall₂ (h : SameFindings found found') :
    List.Forall₂ Diagnostic.SameFinding (exceptBlankLines found) (exceptBlankLines found') := by
  unfold SameFindings at h
  rw [← List.forall₂_eq_eq_eq, List.forall₂_map_left_iff, List.forall₂_map_right_iff] at h
  exact h.imp fun _ _ => Diagnostic.sameFinding_of_content_eq

theorem nil : SameFindings [] [] := rfl

theorem append (h : SameFindings found found') (h' : SameFindings more more') :
    SameFindings (found ++ more) (found' ++ more') := by
  unfold SameFindings exceptBlankLines at *
  rw [List.filter_append, List.filter_append, List.map_append, List.map_append, h, h']

theorem of_content_eq {d e : Diagnostic} (h : d.content = e.content) :
    SameFindings [d] [e] := by
  have hid : d.ruleId = e.ruleId := (Diagnostic.sameFinding_of_content_eq h).ruleId
  unfold SameFindings exceptBlankLines
  rw [List.filter_singleton, List.filter_singleton, hid]
  cases e.ruleId != Rule.blankLines.id with
  | true => exact congrArg ([·]) h
  | false => rfl

theorem single : SameFindings [rule.diagnostic message loc] [rule.diagnostic message loc'] :=
  of_content_eq rfl

theorem cons (h : SameFindings found found') :
    SameFindings (rule.diagnostic message loc :: found) (rule.diagnostic message loc' :: found') :=
  append single h

theorem skipped : SameFindings [rule.skipped loc] [rule.skipped loc'] :=
  of_content_eq (by rw [rule.content_skipped, rule.content_skipped])

theorem replicate (n : Nat) :
    SameFindings (List.replicate n (rule.diagnostic message loc))
      (List.replicate n (rule.diagnostic message loc')) := by
  induction n with
  | zero => exact nil
  | succ n ih => exact cons ih

/-- Findings under one condition. -/
theorem ite {c : Prop} [Decidable c] (h : SameFindings found found')
    (h' : SameFindings more more') :
    SameFindings (if c then found else more) (if c then found' else more') := by
  split
  · exact h
  · exact h'

/-- Findings for each part of a list. -/
theorem flatMap {α : Type} {f g : α → List Diagnostic} {xs : List α}
    (h : ∀ x, SameFindings (f x) (g x)) : SameFindings (xs.flatMap f) (xs.flatMap g) := by
  induction xs with
  | nil => exact nil
  | cons x rest ih =>
    rw [List.flatMap_cons, List.flatMap_cons]
    exact append (h x) ih

theorem flatMap_map {α β : Type} {image : α → β} {f : β → List Diagnostic}
    {g : α → List Diagnostic} {xs : List α} (h : ∀ x, SameFindings (f (image x)) (g x)) :
    SameFindings ((xs.map image).flatMap f) (xs.flatMap g) := by
  rw [List.flatMap_map]
  exact flatMap h

/-- Findings about blank lines do not count. -/
theorem of_blankLines (h : FromRules [Rule.blankLines] found)
    (h' : FromRules [Rule.blankLines] found') : SameFindings found found' := by
  have hnil {xs : List Diagnostic} (hxs : FromRules [Rule.blankLines] xs) :
      exceptBlankLines xs = [] := by
    refine List.filter_eq_nil_iff.2 fun d hd => ?_
    obtain ⟨rule, hrule, hid, -⟩ := hxs d hd
    rw [List.mem_singleton] at hrule
    simp [hid, hrule]
  unfold SameFindings
  rw [hnil h, hnil h']

end SameFindings

/-! ## One lemma for each check

A check that reads fields of a declaration and copies its location needs none. -/

namespace Check

/-! ### Order -/

theorem ofItem?_unlocated (i : TopLevelItem) :
    LayoutCategory.ofItem? i.unlocated = LayoutCategory.ofItem? i := by
  cases i <;> rfl

theorem ofMember?_unlocated (m : Member) :
    MemberCategory.ofMember? m.unlocated = MemberCategory.ofMember? m := by
  cases m <;> rfl

theorem sameFindings_layoutOrderFrom (position : Nat) (previous : Option LayoutCategory)
    (items : List TopLevelItem) :
    SameFindings (layoutOrderFrom position previous (items.map TopLevelItem.unlocated))
      (layoutOrderFrom position previous items) := by
  induction items generalizing position previous with
  | nil => exact .nil
  | cons item rest ih =>
    rw [List.map_cons, layoutOrderFrom_cons, layoutOrderFrom_cons, ofItem?_unlocated]
    cases LayoutCategory.ofItem? item with
    | none =>
      -- The note names the kind of the item and its place among the items.
      have hkind : item.unlocated.toNode.kindName = item.toNode.kindName := by
        rw [item.toNode_unlocated, Node.kindName_unlocated]
      dsimp only
      unfold itemUnknownMessage
      rw [hkind]
      exact .single
    | some category =>
      cases previous with
      | none => exact ih ..
      | some before => exact .ite .single (ih ..)

theorem sameFindings_contractOrderFrom (contract : String) (previous : Option MemberCategory)
    (members : List Member) :
    SameFindings (contractOrderFrom contract previous (members.map Member.unlocated))
      (contractOrderFrom contract previous members) := by
  induction members generalizing previous with
  | nil => exact .nil
  | cons member rest ih =>
    rw [List.map_cons, contractOrderFrom_cons, contractOrderFrom_cons, ofMember?_unlocated]
    cases MemberCategory.ofMember? member with
    | none => exact ih previous
    | some category =>
      cases previous with
      | none => exact ih (some category)
      | some before => exact .ite .single (ih (some category))

theorem sameFindings_functionOrder (c : ContractDefinition) :
    SameFindings (functionOrder c.unlocated) (functionOrder c) := by
  rw [functionOrder_eq, functionOrder_eq, c.functions_unlocated, List.map_map]
  exact .ite .nil .single

/-! ### Names and visibility -/

section Names

variable {kind name : String} {style : CaseStyle} {reference : Option String}

theorem sameFindings_judgeName (loc loc' : Location) :
    SameFindings (judgeName kind name style reference loc)
      (judgeName kind name style reference loc') := by
  rw [judgeName_eq, judgeName_eq]
  exact .ite .skipped (.append (.ite .single .nil) (.ite .nil .single))

theorem sameFindings_stateVariableName (v : VariableDeclaration) :
    SameFindings (stateVariableName v.unlocated) (stateVariableName v) := by
  rw [stateVariableName_eq, stateVariableName_eq]
  obtain ⟨_ | name, _⟩ := v
  · exact .skipped
  · exact .ite (sameFindings_judgeName ..) (sameFindings_judgeName ..)

theorem sameFindings_localVariableName (v : VariableDeclaration) :
    SameFindings (localVariableName v.unlocated) (localVariableName v) := by
  rw [localVariableName_eq, localVariableName_eq]
  obtain ⟨_ | name, _⟩ := v
  · exact .nil
  · exact .ite (sameFindings_judgeName ..) (sameFindings_judgeName ..)

theorem sameFindings_localVariableNames (declared : List (Option VariableDeclaration)) :
    SameFindings (localVariableNames (declared.map (Option.map VariableDeclaration.unlocated)))
      (localVariableNames declared) := by
  rw [localVariableNames_eq, localVariableNames_eq, List.filterMap_map]
  show SameFindings ((declared.filterMap fun v => v.map VariableDeclaration.unlocated).flatMap _) _
  rw [filterMap_optionMap]
  exact .flatMap_map sameFindings_localVariableName

theorem sameFindings_parameterName (v : VariableDeclaration) :
    SameFindings (parameterName v.unlocated) (parameterName v) := by
  rw [parameterName_eq, parameterName_eq]
  obtain ⟨_ | name, _⟩ := v
  · exact .nil
  · exact sameFindings_judgeName ..

end Names

theorem sameFindings_stateVariableUnderscore (v : VariableDeclaration) :
    SameFindings (stateVariableUnderscore v.unlocated) (stateVariableUnderscore v) := by
  rw [stateVariableUnderscore_eq, stateVariableUnderscore_eq]
  obtain ⟨_ | name, _⟩ := v
  · exact .nil
  · exact .ite .nil (.ite .single (.ite .single .nil))

theorem sameFindings_functionUnderscore (f : FunctionDefinition) :
    SameFindings (functionUnderscore f.unlocated) (functionUnderscore f) := by
  rw [functionUnderscore_eq, functionUnderscore_eq]
  obtain ⟨_ | name, _⟩ := f
  · exact .nil
  · exact .ite .nil (.ite .single (.ite .single .nil))

/-! ### External calls -/

theorem assignedName_unlocated (s : Statement) : assignedName s.unlocated = assignedName s := by
  cases s with
  | expression e =>
    cases e with
    | binaryOperation operator left =>
      simp only [Statement.unlocated, Expression.unlocated, assignedName,
        left.baseIdentifier_unlocated]
    | _ => rfl
  | _ => rfl

theorem afterLowLevelCall_unlocated (statements : List Statement) :
    afterLowLevelCall (statements.map Statement.unlocated)
      = (afterLowLevelCall statements).map Statement.unlocated := by
  induction statements with
  | nil => rfl
  | cons s rest ih =>
    have hcall : (Node.statement s.unlocated).containsLowLevelCall
        = (Node.statement s).containsLowLevelCall :=
      (Node.statement s).containsLowLevelCall_unlocated
    rw [List.map_cons, afterLowLevelCall, afterLowLevelCall, hcall, ih]
    split <;> rfl

theorem sameFindings_stateWrite (registry : Registry) (f : FunctionDefinition) (s : Statement) :
    SameFindings (stateWrite registry f.unlocated s.unlocated) (stateWrite registry f s) := by
  rw [stateWrite_eq, stateWrite_eq, assignedName_unlocated]
  cases assignedName s with
  | none => exact .nil
  | some target => exact .ite .single .nil

theorem sameFindings_reentrancy (registry : Registry) (f : FunctionDefinition) :
    SameFindings (reentrancy registry f.unlocated) (reentrancy registry f) := by
  rw [reentrancy_eq, reentrancy_eq, f.body_unlocated]
  cases f.body with
  | none => exact .nil
  | some body =>
    show SameFindings ((afterLowLevelCall (body.statements.map Statement.unlocated)).flatMap _) _
    rw [afterLowLevelCall_unlocated]
    exact .flatMap_map (sameFindings_stateWrite registry f)

theorem sameFindings_declaredCallResult (declared : List (Option VariableDeclaration))
    (initialValue : Option Expression) (loc loc' : Location) :
    SameFindings
      (declaredCallResult (declared.map (Option.map VariableDeclaration.unlocated))
        (initialValue.map Expression.unlocated) loc)
      (declaredCallResult declared initialValue loc') := by
  have hfirst : (declared.map (Option.map VariableDeclaration.unlocated)).head?.join.isNone
      = declared.head?.join.isNone := by
    -- The first slot may be missing, empty or filled.
    rcases declared with _ | ⟨_ | v, rest⟩ <;> rfl
  rw [declaredCallResult_eq, declaredCallResult_eq]
  cases initialValue with
  | none => exact .nil
  | some e =>
    cases e with
    | functionCall callee =>
      simp only [Option.map_some, Expression.unlocated, hfirst, callee.calledMember_unlocated]
      exact .ite .single .nil
    | _ => exact .nil

theorem sameFindings_discardedCallResult (e : Expression) :
    SameFindings (discardedCallResult e.unlocated) (discardedCallResult e) := by
  rw [discardedCallResult_eq, discardedCallResult_eq]
  cases e with
  | functionCall callee =>
    simp only [Expression.unlocated, callee.calledMember_unlocated]
    cases callee.calledMember with
    | none => exact .nil
    | some member => exact .ite .single .nil
  | _ => exact .nil

theorem sameFindings_unsafeGlobal (base : Expression) (member : String) (loc loc' : Location) :
    SameFindings (unsafeGlobal base.unlocated member loc) (unsafeGlobal base member loc') := by
  rw [unsafeGlobal_eq, unsafeGlobal_eq, base.identifierName_unlocated]
  split
  · exact .single
  · exact .single
  · exact .nil

/-! ### Revert messages -/

theorem sameFindings_messageLength (message : Option Expression) :
    SameFindings (messageLength (message.map Expression.unlocated)) (messageLength message) := by
  rw [messageLength_eq, messageLength_eq]
  cases message with
  | none => exact .nil
  | some e =>
    cases e with
    | literal kind =>
      cases kind with
      | string => exact .ite .single .nil
      | _ => exact .skipped
    | _ => exact .skipped

theorem sameFindings_customError (e : Expression) :
    SameFindings (customError e.unlocated) (customError e) := by
  rw [customError_eq, customError_eq]
  cases e with
  | functionCall callee arguments =>
    simp only [Expression.unlocated, callee.calledFunction_unlocated,
      Expression.unlocatedList_eq_map, List.getElem?_map, List.isEmpty_map]
    split
    · exact .cons (sameFindings_messageLength _)
    · exact .ite .nil (.cons (sameFindings_messageLength _))
    · exact .nil
  | _ => exact .nil

/-! ### Cheaper code -/

theorem sameFindings_stateVariableCaching (registry : Registry) (f : FunctionDefinition) :
    SameFindings (stateVariableCaching registry f.unlocated) (stateVariableCaching registry f) := by
  rw [stateVariableCaching_eq, stateVariableCaching_eq, f.body_unlocated]
  cases f.body with
  | none => exact .nil
  | some body =>
    refine .flatMap fun name => ?_
    have hcount : (Node.body body.unlocated).countIdentifier name
        = (Node.body body).countIdentifier name :=
      (Node.body body).countIdentifier_unlocated name
    unfold cacheName
    rw [hcount]
    exact .ite .single .nil

theorem loopArray?_unlocated (condition : Option Expression) :
    loopArray? (condition.map Expression.unlocated) = loopArray? condition := by
  cases condition with
  | none => rfl
  | some e =>
    cases e with
    | binaryOperation operator left right =>
      cases right with
      | memberAccess base member =>
        by_cases hmember : member = "length"
        · subst hmember
          exact base.identifierName_unlocated
        · simp [loopArray?, Expression.unlocated, hmember]
      | _ => rfl
    | _ => rfl

theorem sameFindings_loopLengthCaching (registry : Registry) (condition : Option Expression)
    (loc loc' : Location) :
    SameFindings (loopLengthCaching registry (condition.map Expression.unlocated) loc)
      (loopLengthCaching registry condition loc') := by
  rw [loopLengthCaching_eq, loopLengthCaching_eq, loopArray?_unlocated]
  cases loopArray? condition with
  | none => exact .nil
  | some array => exact .ite .single .nil

theorem isAssignedIn_unlocated (body : Block) (name : String) :
    isAssignedIn body.unlocated name = isAssignedIn body name := by
  simp [isAssignedIn, Block.unlocated, List.any_map, Function.comp_def, assignedName_unlocated]

theorem sameFindings_calldataParameters (f : FunctionDefinition) :
    SameFindings (calldataParameters f.unlocated) (calldataParameters f) := by
  rw [calldataParameters_eq, calldataParameters_eq, f.body_unlocated]
  cases f.body with
  | none => exact .nil
  | some body =>
    refine .flatMap_map fun v => ?_
    simp only [isAssignedIn_unlocated]
    exact .ite .single .nil

theorem sameFindings_comparisonOperator (legacy : Bool) (operator : String)
    (loc loc' : Location) :
    SameFindings (comparisonOperator legacy operator loc)
      (comparisonOperator legacy operator loc') := by
  rw [comparisonOperator_eq, comparisonOperator_eq, strictComparison_eq, strictComparison_eq]
  refine .append ?_ (.replicate _)
  cases strictComparison? operator with
  | none => exact .nil
  | some better => exact .single

/-! ### Increments -/

theorem targetText_unlocated : ∀ e : Expression, targetText e.unlocated = targetText e
  | .memberAccess base member _ => by
      simp only [Expression.unlocated, targetText, targetText_unlocated base]
  | .indexAccess base none _ => by
      simp only [Expression.unlocated, Expression.unlocatedOption, targetText,
        targetText_unlocated base]
  | .indexAccess base (some index) _ => by
      simp only [Expression.unlocated, Expression.unlocatedOption, targetText,
        targetText_unlocated base, targetText_unlocated index]
  | .literal kind .. => by cases kind <;> rfl
  | .identifier .. | .functionCall .. | .callOptions .. | .binaryOperation .. | .unaryOperation ..
  | .conditional .. | .tuple .. | .newExpression .. | .elementaryTypeName .. | .other .. => rfl

theorem sameTarget_unlocated (a b : Expression) :
    sameTarget a.unlocated b.unlocated = sameTarget a b := by
  unfold sameTarget
  rw [targetText_unlocated, targetText_unlocated]

/-- An idiom without the locations of its target. -/
def IncrementIdiom.unlocated (idiom : IncrementIdiom) : IncrementIdiom :=
  { idiom with target := idiom.target.unlocated }

theorem IncrementIdiom.message_unlocated (idiom : IncrementIdiom) :
    idiom.unlocated.message = idiom.message := by
  unfold message
  rw [unlocated, targetText_unlocated]

theorem assignmentIdiom?_unlocated (operator : String) (left right : Expression) :
    assignmentIdiom? operator left.unlocated right.unlocated
      = (assignmentIdiom? operator left right).map IncrementIdiom.unlocated := by
  unfold assignmentIdiom?
  split
  · rw [right.isNumberOne_unlocated]
    split <;> rfl
  · rw [right.isNumberOne_unlocated]
    split <;> rfl
  · cases right with
    | binaryOperation inner a b =>
      rw [Expression.unlocated]
      by_cases hplus : inner = "+"
      · subst hplus
        simp only [sameTarget_unlocated, Expression.isNumberOne_unlocated]
        split
        · rfl
        · split <;> rfl
      · by_cases hminus : inner = "-"
        · subst hminus
          simp only [sameTarget_unlocated, Expression.isNumberOne_unlocated]
          split <;> rfl
        · simp [hplus, hminus]
    | _ => rfl
  · rfl

theorem incrementIdiom?_unlocated (e : Expression) :
    incrementIdiom? e.unlocated = (incrementIdiom? e).map IncrementIdiom.unlocated := by
  cases e with
  | unaryOperation operator operand leading =>
    rw [Expression.unlocated]
    cases leading with
    | true => simp [incrementIdiom?]
    | false =>
      by_cases hplus : operator = "++"
      · subst hplus
        rfl
      · by_cases hminus : operator = "--"
        · subst hminus
          rfl
        · simp [incrementIdiom?, hplus, hminus]
  | binaryOperation operator left right => exact assignmentIdiom?_unlocated operator left right
  | _ => rfl

theorem sameFindings_increment (e : Expression) :
    SameFindings (increment e.unlocated) (increment e) := by
  rw [increment_eq, increment_eq, incrementIdiom?_unlocated]
  cases incrementIdiom? e with
  | none => exact .nil
  | some idiom =>
    simp only [Option.map_some, idiom.message_unlocated]
    exact .single

end Check

/-! ## Inspections -/

namespace Inspection

/-- The inspection of the unlocated part. -/
def unlocated : Inspection → Inspection
  | layoutOrder u => layoutOrder u.unlocated
  | blankLines u => blankLines u.unlocated
  | contractOrder c => contractOrder c.unlocated
  | functionOrder c => functionOrder c.unlocated
  | contractName c => contractName c.unlocated
  | stateVariableVisibility d => stateVariableVisibility d.unlocated
  | stateVariableUnderscore v => stateVariableUnderscore v.unlocated
  | stateVariableName v => stateVariableName v.unlocated
  | typeAbbreviation v => typeAbbreviation v.unlocated
  | functionVisibility f => functionVisibility f.unlocated
  | functionUnderscore f => functionUnderscore f.unlocated
  | functionName f => functionName f.unlocated
  | reentrancy f => reentrancy f.unlocated
  | stateVariableCaching f => stateVariableCaching f.unlocated
  | calldataParameters f => calldataParameters f.unlocated
  | namedReturns f => namedReturns f.unlocated
  | parameterNames parameters => parameterNames (parameters.map VariableDeclaration.unlocated)
  | localVariableNames declared =>
      localVariableNames (declared.map (Option.map VariableDeclaration.unlocated))
  | declaredCallResult declared initialValue _ =>
      declaredCallResult (declared.map (Option.map VariableDeclaration.unlocated))
        (initialValue.map Expression.unlocated) .zero
  | structName d => structName d.unlocated
  | eventName d => eventName d.unlocated
  | indexedEvents d => indexedEvents d.unlocated
  | enumName d => enumName d.unlocated
  | modifierName d => modifierName d.unlocated
  | unsafeGlobal base member _ => unsafeGlobal base.unlocated member .zero
  | discardedCallResult e => discardedCallResult e.unlocated
  | customError e => customError e.unlocated
  | loopLengthCaching condition _ =>
      loopLengthCaching (condition.map Expression.unlocated) .zero
  | increment e => increment e.unlocated
  | comparisonOperator operator _ => comparisonOperator operator .zero
  | erc721Inheritance s => erc721Inheritance s.unlocated

/-- An unlocated node calls for the same inspections. -/
theorem ofNode_unlocated (n : Node) : ofNode n.unlocated = (ofNode n).map unlocated := by
  cases n with
  | stateVariable d =>
    show _ :: (d.declared.map VariableDeclaration.unlocated).flatMap _ = _
    rw [List.flatMap_map, ofNode, List.map_cons, List.map_flatMap]
    rfl
  | function f =>
    show (if f.isConstructor then _ else _) ++ _ = (ofFunction f).map unlocated
    rw [ofFunction, List.map_append]
    split <;> rfl
  | statement s =>
    cases s with
    | forLoop init condition update => cases update <;> rfl
    | _ => rfl
  | expression e => cases e <;> rfl
  | _ => rfl

/-- **An inspection finds the same in an unlocated part.** -/
theorem sameFindings_run (options : Options) (registry : Registry) (i : Inspection) :
    SameFindings (i.unlocated.run options registry) (i.run options registry) := by
  cases i with
  | layoutOrder u => exact Check.sameFindings_layoutOrderFrom 0 none u.items
  | blankLines u =>
    -- The one check that computes with locations; what it finds is set aside on both sides.
    exact .of_blankLines (Check.fromRules_blankLinesAmong _) (Check.fromRules_blankLinesAmong _)
  | contractOrder c => exact Check.sameFindings_contractOrderFrom c.name none c.members
  | functionOrder c => exact Check.sameFindings_functionOrder c
  | stateVariableVisibility d =>
    rw [run, unlocated, run, Check.stateVariableVisibility_eq, Check.stateVariableVisibility_eq]
    exact .flatMap_map fun v => .ite .single .nil
  | stateVariableUnderscore v => exact Check.sameFindings_stateVariableUnderscore v
  | stateVariableName v => exact Check.sameFindings_stateVariableName v
  | typeAbbreviation v =>
    rw [run, unlocated, run, Check.typeAbbreviation_eq, Check.typeAbbreviation_eq]
    exact .ite .single .nil
  | functionVisibility f =>
    rw [run, unlocated, run, Check.functionVisibility_eq, Check.functionVisibility_eq]
    exact .ite .single .nil
  | functionUnderscore f => exact Check.sameFindings_functionUnderscore f
  | functionName f =>
    rw [run, unlocated, run, Check.functionName_eq, Check.functionName_eq]
    exact .ite (Check.sameFindings_judgeName ..) .nil
  | reentrancy f => exact Check.sameFindings_reentrancy registry f
  | stateVariableCaching f => exact Check.sameFindings_stateVariableCaching registry f
  | calldataParameters f => exact Check.sameFindings_calldataParameters f
  | namedReturns f =>
    rw [run, unlocated, run, Check.namedReturns_eq, Check.namedReturns_eq]
    exact .flatMap_map fun v => .ite .single .nil
  | parameterNames parameters =>
    rw [run, unlocated, run, Check.parameterNames_eq, Check.parameterNames_eq]
    exact .flatMap_map Check.sameFindings_parameterName
  | localVariableNames declared => exact Check.sameFindings_localVariableNames declared
  | declaredCallResult declared initialValue loc =>
    exact Check.sameFindings_declaredCallResult declared initialValue .zero loc
  | indexedEvents d =>
    rw [run, unlocated, run, Check.indexedEvents_eq, Check.indexedEvents_eq]
    exact .flatMap_map fun v => .ite .single .nil
  | unsafeGlobal base member loc => exact Check.sameFindings_unsafeGlobal base member .zero loc
  | discardedCallResult e => exact Check.sameFindings_discardedCallResult e
  | customError e => exact Check.sameFindings_customError e
  | loopLengthCaching condition loc =>
    exact Check.sameFindings_loopLengthCaching registry condition .zero loc
  | increment e => exact Check.sameFindings_increment e
  | comparisonOperator operator loc =>
    exact Check.sameFindings_comparisonOperator options.legacyOperators operator .zero loc
  | erc721Inheritance s =>
    rw [run, unlocated, run, Check.erc721Inheritance_eq, Check.erc721Inheritance_eq]
    exact .ite .single .nil
  | contractName | structName | eventName | enumName | modifierName =>
    exact Check.sameFindings_judgeName ..

end Inspection

/-! ## The pass -/

/-- Two contexts with the same registry and the same findings. -/
structure Context.SameFindings (c c' : Context) : Prop where
  registry : c.registry = c'.registry
  diagnostics : SolidityLint.SameFindings c.diagnostics c'.diagnostics

namespace Engine

theorem declaredNames_unlocated (n : Node) : declaredNames n.unlocated = declaredNames n := by
  cases n with
  | stateVariable d =>
    show (d.declared.map VariableDeclaration.unlocated).filterMap _ = _
    rw [List.filterMap_map]
    rfl
  | _ => rfl

theorem sameFindings_findings (options : Options) (registry : Registry) (n : Node) :
    SameFindings (findings options registry n.unlocated) (findings options registry n) := by
  rw [findings_eq, findings_eq, Inspection.ofNode_unlocated]
  exact .flatMap_map (Inspection.sameFindings_run options registry)

/-- Meeting a node and meeting it unlocated. -/
theorem sameFindings_visit (options : Options) {c c' : Context} (h : c.SameFindings c') (n : Node) :
    (visit options c n.unlocated).SameFindings (visit options c' n) := by
  constructor
  · rw [visit_registry, visit_registry, h.registry, declaredNames_unlocated]
  · rw [visit_diagnostics, visit_diagnostics, emitted_eq_findings, emitted_eq_findings, h.registry,
      declaredNames_unlocated]
    exact h.diagnostics.append (sameFindings_findings ..)

theorem sameFindings_foldl_visit (options : Options) {c c' : Context} (h : c.SameFindings c')
    (nodes : List Node) :
    ((nodes.map Node.unlocated).foldl (visit options) c).SameFindings
      (nodes.foldl (visit options) c') := by
  induction nodes generalizing c c' with
  | nil => exact h
  | cons n rest ih => exact ih (sameFindings_visit options h n)

theorem sameFindings_run_unlocated (options : Options) (u : SourceUnit) :
    SameFindings (run options u.unlocated) (run options u) := by
  have hempty : Context.empty.SameFindings .empty := ⟨rfl, .nil⟩
  have hwalk : (Node.sourceUnit u.unlocated).walk = (Node.sourceUnit u).walk.map Node.unlocated :=
    (Node.sourceUnit u).walk_unlocated
  unfold run
  rw [hwalk]
  exact (sameFindings_foldl_visit options hempty _).diagnostics

/-- **Findings do not depend on the layout.** For two source files that are equal once all locations
    are erased, the findings of a pass, those about blank lines aside, are as many, and at each
    position the same finding: of the same rule, with the same severity and reference, and, unless
    it is the note that a rule was skipped, with the same message. -/
theorem run_layout_independent (options : Options) {u v : SourceUnit}
    (h : u.unlocated = v.unlocated) :
    List.Forall₂ Diagnostic.SameFinding (exceptBlankLines (run options u))
      (exceptBlankLines (run options v)) := by
  -- Both runs say what the run of the one unlocated file says.
  have hu := sameFindings_run_unlocated options u
  have hv := sameFindings_run_unlocated options v
  rw [h] at hu
  exact SameFindings.forall₂ (hu.symm.trans hv)

/-- `contract vault { function check() external { require(ok, reason); } }` on that line, and
    `contract Bank { }` on line nine. -/
def vaultOnLine (line : Nat) : SourceUnit :=
  let here : Location := ⟨⟨line, 0⟩, ⟨line, 70⟩⟩
  let require : Expression :=
    .functionCall (.identifier "require" here)
      [.identifier "ok" here, .identifier "reason" here] [] here
  let check : FunctionDefinition :=
    ⟨some "check", .function, .external, false, [], [],
      some ⟨[.expression require here], false, here⟩, here⟩
  ⟨[.contract ⟨"vault", .contract, [], [.function check], here⟩,
    .contract ⟨"Bank", .contract, [], [], ⟨⟨9, 0⟩, ⟨9, 17⟩⟩⟩], here⟩

/-- On the first line and on the sixth the name, the call of `require` and its message are noted.
    The note on the message quotes the line, and the blank lines are wrong on the first line
    only. -/
theorem run_layout_independent_vaultOnLine :
    (vaultOnLine 1).unlocated = (vaultOnLine 6).unlocated
    ∧ (run ⟨false⟩ (vaultOnLine 1)).map (·.ruleId)
      = ["SOL-L005", "SOL-N002", "SOL-G001", "SOL-X001"]
    ∧ (run ⟨false⟩ (vaultOnLine 6)).map (·.ruleId) = ["SOL-N002", "SOL-G001", "SOL-X001"]
    ∧ List.Forall₂ Diagnostic.SameFinding (exceptBlankLines (run ⟨false⟩ (vaultOnLine 1)))
      (exceptBlankLines (run ⟨false⟩ (vaultOnLine 6))) := by
  refine ⟨rfl, ?_, ?_, run_layout_independent ⟨false⟩ rfl⟩
  · decide +kernel
  · decide +kernel

end Engine

end SolidityLint
