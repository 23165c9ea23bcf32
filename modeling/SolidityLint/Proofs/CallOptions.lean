import SolidityLint.Analysis
import SolidityLint.Proofs.Reentrancy

set_option autoImplicit false

/-! # Layers of call options

The grammar lets one block of call options follow another, as in
`target.call{value: v}{gas: g}(data)`, and each block is a layer around the callee. The checks look
through exactly one layer (`Expression.withoutOptions`), so they know a call of `call` with no
options or with one block of them, and take one with more for something else.

`LayeredCall` is such a call with any number of layers. What the checks make of it is read off two
equations: the member that is called (`Expression.calledMember_withOptions`) and the search for a
low-level call (`LayeredCall.containsLowLevelCall_eq`). -/

namespace SolidityLint

open Ast Engine

namespace Ast

/-! ## Callees in layers -/

/-- One block of call options. -/
structure OptionLayer where
  names : List String
  values : List Expression
  loc : Location

namespace Expression

/-- A callee inside layers of call options, the outermost first. -/
def withOptions (callee : Expression) : List OptionLayer → Expression
  | [] => callee
  | layer :: rest => .callOptions (callee.withOptions rest) layer.names layer.values layer.loc

/-- Is this a callee with call options? -/
def isCallOptions : Expression → Bool
  | .callOptions .. => true
  | _ => false

/-- Looking through one layer leaves call options exactly when there are two layers. -/
theorem isCallOptions_withoutOptions_iff (e : Expression) :
    e.withoutOptions.isCallOptions = true
      ↔ ∃ (callee : Expression) (outer inner : OptionLayer),
        e = callee.withOptions [outer, inner] := by
  constructor
  · intro h
    cases e with
    | callOptions callee names values loc =>
      cases callee with
      | callOptions callee innerNames innerValues innerLoc =>
        exact ⟨callee, ⟨names, values, loc⟩, ⟨innerNames, innerValues, innerLoc⟩, rfl⟩
      | _ => exact absurd h (by simp [withoutOptions, isCallOptions])
    | _ => exact absurd h (by simp [withoutOptions, isCallOptions])
  · rintro ⟨callee, outer, inner, rfl⟩
    rfl

section Member

variable (target : Expression) (member : String) (loc : Location) (layers : List OptionLayer)

/-- Looking through one layer leaves a layer exactly when there are two. -/
theorem isCallOptions_withoutOptions_withOptions :
    ((memberAccess target member loc).withOptions layers).withoutOptions.isCallOptions
      = decide (2 ≤ layers.length) := by
  match layers with
  | [] => rfl
  | [_] => rfl
  | _ :: _ :: rest => simp [withOptions, withoutOptions, isCallOptions]

/-- The member that is called is known through one layer and through no more. -/
theorem calledMember_withOptions :
    ((memberAccess target member loc).withOptions layers).calledMember
      = if layers.length ≤ 1 then some member else none := by
  match layers with
  | [] => rfl
  | [_] => rfl
  | _ :: _ :: rest => simp [withOptions, withoutOptions, calledMember]

end Member

end Expression

/-! ## The search below a layered callee -/

namespace Node

theorem containsLowLevelCall_expression (e : Expression) :
    (expression e).containsLowLevelCall
      = ((expression e).isLowLevelCall
        || e.children.any fun c => (expression c).containsLowLevelCall) := by
  rw [containsLowLevelCall_eq, children, List.any_map]
  rfl

theorem containsLowLevelCall_withOptions (callee : Expression) (layers : List OptionLayer) :
    (expression (callee.withOptions layers)).containsLowLevelCall
      = ((expression callee).containsLowLevelCall
        || (layers.flatMap OptionLayer.values).any fun v =>
          (expression v).containsLowLevelCall) := by
  induction layers with
  | nil => simp [Expression.withOptions]
  | cons layer rest ih =>
    rw [Expression.withOptions, containsLowLevelCall_expression, Expression.children,
      List.any_cons, ih, List.flatMap_cons, List.any_append]
    simp [isLowLevelCall, Bool.or_comm, Bool.or_left_comm]

end Node

end Ast

/-! ## Calls of `call` in layers -/

/-- The call `target.call{…}…{…}(arguments)` with any number of blocks of options. -/
structure LayeredCall where
  target : Expression
  /-- Where `target.call` is written. -/
  memberLoc : Location
  /-- The blocks of options, the outermost first. -/
  layers : List OptionLayer
  arguments : List Expression
  /-- The names of the arguments, if they are given by name. -/
  names : List String
  loc : Location

namespace LayeredCall

/-- What is called: the member `call` of the target, with the blocks of options around it. -/
def callee (c : LayeredCall) : Expression :=
  (Expression.memberAccess c.target "call" c.memberLoc).withOptions c.layers

/-- The call as an expression. -/
def expression (c : LayeredCall) : Expression :=
  .functionCall c.callee c.arguments c.names c.loc

/-- The call as a statement of its own. -/
def statement (c : LayeredCall) (loc : Location) : Statement :=
  .expression c.expression loc

/-- The expressions that the call is made of: its target, the values of its options and its
    arguments. -/
def operands (c : LayeredCall) : List Expression :=
  c.target :: (c.layers.flatMap OptionLayer.values ++ c.arguments)

/-- Is there a low-level call in one of the operands? -/
def hasInnerCall (c : LayeredCall) : Bool :=
  c.operands.any fun e => (Node.expression e).containsLowLevelCall

/-- The call itself is found through one layer; through more only a call in an operand is. -/
theorem containsLowLevelCall_eq (c : LayeredCall) :
    (Node.expression c.expression).containsLowLevelCall
      = (decide (c.layers.length ≤ 1) || c.hasInnerCall) := by
  have hself : (Node.expression c.expression).isLowLevelCall = decide (c.layers.length ≤ 1) := by
    show (c.callee.calledMember == some "call") = _
    rw [callee, Expression.calledMember_withOptions]
    split <;> simp [*]
  have hcallee : (Node.expression c.callee).containsLowLevelCall
      = ((Node.expression c.target).containsLowLevelCall
        || (c.layers.flatMap OptionLayer.values).any fun v =>
          (Node.expression v).containsLowLevelCall) := by
    rw [callee, Node.containsLowLevelCall_withOptions, Node.containsLowLevelCall_expression]
    simp [Node.isLowLevelCall, Expression.children]
  rw [Node.containsLowLevelCall_expression, hself, hasInnerCall, operands, expression,
    Expression.children, List.any_cons, hcallee, List.any_cons, List.any_append, Bool.or_assoc]

theorem containsLowLevelCall_statement (c : LayeredCall) (loc : Location) :
    (Node.statement (c.statement loc)).containsLowLevelCall
      = (decide (c.layers.length ≤ 1) || c.hasInnerCall) := by
  rw [Node.containsLowLevelCall_eq, ← c.containsLowLevelCall_eq]
  simp [statement, Node.isLowLevelCall, Node.children, Statement.children]

/-! ## The call as a statement -/

/-- The finding against a call whose result is thrown away. -/
def discarded (c : LayeredCall) : Diagnostic :=
  Rule.uncheckedCall.diagnostic "capture the return value of the external call" c.loc

theorem discardedCallResult_eq (c : LayeredCall) :
    Check.discardedCallResult c.expression
      = if c.layers.length ≤ 1 then [c.discarded] else [] := by
  have hmessage : Check.discardedResultMessage "call"
      = "capture the return value of the external call" := by decide
  simp only [expression, Check.discardedCallResult_eq, callee,
    Expression.calledMember_withOptions]
  by_cases h : c.layers.length ≤ 1
  · simp [h, discarded, hmessage]
  · simp [h]

theorem findings_uncheckedCall (c : LayeredCall) (options : Options) (registry : Registry)
    (loc : Location) :
    (findings options registry (.statement (c.statement loc))).filter
        (fun d => d.ruleId == "SOL-S004")
      = if c.layers.length ≤ 1 then [c.discarded] else [] := by
  -- Of the three inspections of an expression statement only one has the rule.
  have hinspections : (Inspection.ofNode (.statement (c.statement loc))).filter
      (Inspection.mayReport "SOL-S004") = [.discardedCallResult c.expression] := rfl
  rw [filter_findings, hinspections, List.flatMap_singleton]
  show Inspection.runFor Rule.uncheckedCall.id options registry _ = _
  rw [Inspection.runFor_eq_run rfl]
  exact c.discardedCallResult_eq

end LayeredCall

/-! ## The call in a function body -/

namespace Check

theorem afterLowLevelCall_eq_nil {statements : List Statement}
    (h : statements.any (fun t => (Node.statement t).containsLowLevelCall) = false) :
    afterLowLevelCall statements = [] := by
  induction statements with
  | nil => rfl
  | cons s rest ih =>
    rw [List.any_cons, Bool.or_eq_false_iff] at h
    rw [afterLowLevelCall, if_neg (by simp [h.1]), ih h.2]

/-- Where the search for the first call ends when it passes `before` and meets `s`. -/
theorem afterLowLevelCall_append_cons (before after : List Statement) (s : Statement) :
    afterLowLevelCall (before ++ s :: after)
      = if before.any (fun t => (Node.statement t).containsLowLevelCall) then
          afterLowLevelCall before ++ s :: after
        else if (Node.statement s).containsLowLevelCall then after
        else afterLowLevelCall after := by
  induction before with
  | nil => rfl
  | cons t rest ih =>
    rw [List.cons_append, afterLowLevelCall, afterLowLevelCall, List.any_cons, ih]
    by_cases ht : (Node.statement t).containsLowLevelCall = true
    · simp [ht]
    · simp [ht]

end Check

namespace LayeredCall

/-- A statement that is a call writes to no variable. -/
theorem stateWrite_statement (c : LayeredCall) (registry : Registry) (f : FunctionDefinition)
    (loc : Location) : Check.stateWrite registry f (c.statement loc) = [] := rfl

/-- The writes that are reported in a body with the call in it: all that follow the call, if an
    earlier statement has a call or this one counts as one, and else those after the next call. -/
theorem reentrancy_eq (c : LayeredCall) (registry : Registry) (f : FunctionDefinition)
    (before after : List Statement) (isUnchecked : Bool) (bodyLoc loc : Location) :
    Check.reentrancy registry
        { f with body := some ⟨before ++ c.statement loc :: after, isUnchecked, bodyLoc⟩ }
      = if before.any (fun t => (Node.statement t).containsLowLevelCall)
            || (decide (c.layers.length ≤ 1) || c.hasInnerCall) then
          (Check.afterLowLevelCall before ++ after).flatMap (Check.stateWrite registry f)
        else (Check.afterLowLevelCall after).flatMap (Check.stateWrite registry f) := by
  rw [Check.reentrancy_eq]
  show (Check.afterLowLevelCall (before ++ c.statement loc :: after)).flatMap
    (Check.stateWrite registry f) = _
  rw [Check.afterLowLevelCall_append_cons, c.containsLowLevelCall_statement]
  by_cases hbefore : before.any (fun t => (Node.statement t).containsLowLevelCall) = true
  · simp [hbefore, c.stateWrite_statement]
  · have hnone := Check.afterLowLevelCall_eq_nil (Bool.eq_false_iff.2 hbefore)
    by_cases hcall : (decide (c.layers.length ≤ 1) || c.hasInnerCall) = true
    · rw [if_neg hbefore, if_pos hcall, if_pos (by rw [hcall, Bool.or_true]), hnone,
        List.nil_append]
    · rw [if_neg hbefore, if_neg hcall, if_neg (by simpa [hbefore] using hcall)]

/-- **A call of `call` is known through one block of options and through no more.** With at most one
    block the called member is `call`, the result of looking through the options is no callee with
    options, the search finds the call, a statement that throws its result away is reported, and all
    writes to state after it are. With more blocks none of this holds, except that the search still
    finds a call in an operand. Looking through the options of any callee leaves options exactly
    when there are two blocks. -/
theorem known_iff_one_layer (c : LayeredCall) :
    (c.callee.calledMember = some "call" ↔ c.layers.length ≤ 1)
    ∧ (c.callee.withoutOptions.isCallOptions = false ↔ c.layers.length ≤ 1)
    ∧ (∀ e : Expression, e.withoutOptions.isCallOptions = true
        ↔ ∃ (callee : Expression) (outer inner : OptionLayer),
          e = callee.withOptions [outer, inner])
    ∧ ((Node.expression c.expression).containsLowLevelCall = true
        ↔ c.layers.length ≤ 1 ∨ c.hasInnerCall = true)
    ∧ (∀ options registry loc,
        (findings options registry (.statement (c.statement loc))).filter
            (fun d => d.ruleId == "SOL-S004")
          = if c.layers.length ≤ 1 then [c.discarded] else [])
    ∧ ∀ registry (f : FunctionDefinition) before after isUnchecked bodyLoc loc,
        Check.reentrancy registry
            { f with body := some ⟨before ++ c.statement loc :: after, isUnchecked, bodyLoc⟩ }
          = if before.any (fun t => (Node.statement t).containsLowLevelCall)
                || (decide (c.layers.length ≤ 1) || c.hasInnerCall) then
              (Check.afterLowLevelCall before ++ after).flatMap (Check.stateWrite registry f)
            else (Check.afterLowLevelCall after).flatMap (Check.stateWrite registry f) := by
  refine ⟨?_, ?_, Expression.isCallOptions_withoutOptions_iff, ?_, ?_, ?_⟩
  · rw [callee, Expression.calledMember_withOptions]
    split <;> simp [*]
  · rw [callee, Expression.isCallOptions_withoutOptions_withOptions, decide_eq_false_iff_not]
    omega
  · rw [c.containsLowLevelCall_eq, Bool.or_eq_true, decide_eq_true_iff]
  · exact c.findings_uncheckedCall
  · exact c.reentrancy_eq

/-- `target.call{value: 1}{gas: 2}("")`. -/
def twoBlocks : LayeredCall where
  target := .identifier "target" .zero
  memberLoc := .zero
  layers := [⟨["gas"], [.literal .number "2" none .zero], .zero⟩,
    ⟨["value"], [.literal .number "1" none .zero], .zero⟩]
  arguments := [.literal .string "" none .zero]
  names := []
  loc := .zero

/-- A source that throws the result of such a call away. -/
def twoBlocksSource : String :=
  "contract Vault\x7bfunction probe()external\x7bto.call\x7bvalue:1\x7d\x7bgas:2\x7d(data);\x7d\x7d"

/-- With two blocks of options the call is not known as one, and nothing in the source is
    reported. -/
theorem twoBlocks_unknown :
    twoBlocks.callee.calledMember = none
    ∧ twoBlocks.callee.withoutOptions.isCallOptions = true
    ∧ (Node.expression twoBlocks.expression).containsLowLevelCall = false
    ∧ Check.discardedCallResult twoBlocks.expression = []
    ∧ (Settings.default.analyseSource "Vault.sol" twoBlocksSource).toOption
      = some ⟨"Vault.sol", [], 0, none⟩ := by
  refine ⟨rfl, rfl, ?_, rfl, ?_⟩
  · rw [containsLowLevelCall_eq]
    decide +kernel
  · decide +kernel

end LayeredCall

end SolidityLint
