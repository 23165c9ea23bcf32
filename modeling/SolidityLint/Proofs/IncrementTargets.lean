import SolidityLint.Analysis
import SolidityLint.Proofs.FindingSites
import SolidityLint.Proofs.LoweredExpression
import SolidityLint.Proofs.TargetSpelling

set_option autoImplicit false

/-! # Which assignments are increments

An assignment is reported as an increment or decrement if its right side adds or subtracts one from
a target that is spelled like its left side. In a parse tree whose names and numbers are written as
the lexer reads them, that target is the left side itself, except that the units of the numbers in
it may differ (`Check.increment_assignment_iff`): `list[1 days] = list[1] + 1` is reported, although
it reads another element than it writes. -/

namespace SolidityLint

open Ast
open ParseTree (Expr)
open Lexer (isName isExponent IsNumber IsMarkedExponent)

/-! ## Names and numbers of a tree -/

/-- One or more digits. -/
def Lexer.isDigits (text : List Char) : Bool :=
  !text.isEmpty && text.all isDigit

/-- A hexadecimal number, with its mark. -/
def Lexer.isHexNumber : List Char → Bool
  | '0' :: 'x' :: digits => digits.all fun c => isHexDigit c || c == '_'
  | _ => false

theorem Lexer.isNumber_of_isHexNumber {text : List Char} (h : isHexNumber text = true) :
    IsNumber text := by
  fun_cases isHexNumber text with
  | case1 digits => exact .hexadecimal h
  | case2 => simp_all [isHexNumber]

namespace ParseTree.Expr

/-- Is the name or number that an expression has of its own written as one? -/
def isProper : Expr → Bool
  | .identifier name => isName name.text.toList
  | .member _ name _ => isName name.text.toList
  | .numberLiteral integer exponent _ _ =>
      Lexer.isDigits integer.toList && isExponent exponent.toList
  | .rationalLiteral integer fraction exponent _ _ =>
      integer.toList.all Lexer.isDigit && Lexer.isDigits fraction.toList
        && isExponent exponent.toList
  | .hexNumberLiteral value _ _ => Lexer.isHexNumber value.toList
  | _ => true

/-- All names and numbers that lowering keeps are written as such. -/
def WellSpelled (e : Expr) : Prop := ∀ c ∈ e.kept, c.isProper = true

end ParseTree.Expr

namespace Ast

namespace Expression

/-- The name or number that an expression has of its own is one. -/
def IsProper : Expression → Prop
  | .identifier name _ => isName name.toList = true
  | .memberAccess _ member _ => isName member.toList = true
  | .literal .number value _ _ => IsNumber value.toList
  | _ => True

/-- All names and numbers at and below an expression are such. -/
def WellSpelled (e : Expression) : Prop :=
  ∀ c, Node.expression c ∈ (Node.expression e).walk → c.IsProper

namespace WellSpelled

variable {e c : Expression}

theorem isProper (h : e.WellSpelled) : e.IsProper := h e (Node.mem_walk_self _)

theorem of_mem_children (h : e.WellSpelled) (hc : c ∈ e.children) : c.WellSpelled :=
  fun d hd => h d (Node.walk_subset_of_mem_children (List.mem_map_of_mem hc) hd)

end WellSpelled

/-- What is kept of an exponent, with its mark. -/
theorem exists_isMarkedExponent {exponent : String} (h : isExponent exponent.toList = true) :
    ∃ marked, IsMarkedExponent marked
      ∧ ∀ mantissa : String, (numberText mantissa exponent).toList = mantissa.toList ++ marked := by
  unfold numberText
  by_cases hempty : exponent.isEmpty = true
  · refine ⟨[], .inl rfl, fun mantissa => ?_⟩
    rw [if_pos hempty, List.append_nil]
  · refine ⟨'e' :: exponent.toList, .inr ⟨_, rfl, h⟩, fun mantissa => ?_⟩
    rw [if_neg hempty, String.toList_append, String.toList_append, List.append_assoc]
    rfl

theorem isProper_lower (s : Source) {e : Expr} (h : e.isProper = true)
    (hbare : e.isParenthesis = false) : (lower s e).IsProper := by
  cases e with
  | identifier name => exact h
  | member base name span => exact h
  | parenthesis inner span => exact absurd hbare (by simp [Expr.isParenthesis])
  | numberLiteral integer exponent unit span =>
    simp only [Expr.isProper, Lexer.isDigits, Bool.and_eq_true, Bool.not_eq_true'] at h
    obtain ⟨⟨hne, hdigits⟩, hexponent⟩ := h
    obtain ⟨marked, hmarked, htext⟩ := exists_isMarkedExponent hexponent
    show IsNumber (numberText integer exponent).toList
    rw [htext]
    exact .decimal (by simpa using hne) hdigits hmarked
  | rationalLiteral integer fraction exponent unit span =>
    simp only [Expr.isProper, Lexer.isDigits, Bool.and_eq_true, Bool.not_eq_true'] at h
    obtain ⟨⟨hinteger, hne, hdigits⟩, hexponent⟩ := h
    obtain ⟨marked, hmarked, htext⟩ := exists_isMarkedExponent hexponent
    show IsNumber (numberText (integer ++ "." ++ fraction) exponent).toList
    have hsplit : (integer ++ "." ++ fraction).toList ++ marked
        = integer.toList ++ '.' :: (fraction.toList ++ marked) := by
      rw [String.toList_append, String.toList_append, List.append_assoc, List.append_assoc]
      rfl
    rw [htext, hsplit]
    exact .rational hinteger (by simpa using hne) hdigits hmarked
  | hexNumberLiteral value unit span =>
    exact Lexer.isNumber_of_isHexNumber h
  | _ => exact True.intro

/-- Lowering keeps names and numbers as they are written. -/
theorem wellSpelled_lower (s : Source) {e : Expr} (h : e.WellSpelled) :
    (lower s e).WellSpelled := by
  intro c hc
  rw [Node.walk_lower, List.mem_map] at hc
  obtain ⟨d, hd, heq⟩ := hc
  obtain rfl : lower s d = c := Node.expression.inj heq
  rw [List.mem_filter, Bool.not_eq_true'] at hd
  exact isProper_lower s (h d hd.1) hd.2

end Expression

end Ast

namespace Check

/-! ## Spellings of well-spelled targets -/

theorem spells_of_targetText : ∀ {e : Expression} {x : String}, e.WellSpelled →
    targetText e = some x → Spells e x.toList
  | .identifier name loc, x, hwell, h => by
      obtain rfl : name = x := Option.some.inj h
      exact .identifier hwell.isProper
  | .literal kind value unit loc, x, hwell, h => by
      cases kind with
      | number =>
        obtain rfl : value = x := Option.some.inj h
        exact .number hwell.isProper
      | _ => cases h
  | .indexAccess base none loc, x, hwell, h => by
      cases hb : targetText base with
      | none => simp [targetText, hb] at h
      | some y =>
        obtain rfl : y ++ "[]" = x := by simpa [targetText, hb] using h
        have hbase :=
          spells_of_targetText (hwell.of_mem_children (by simp [Expression.children])) hb
        rw [String.toList_append]
        exact .noIndex hbase
  | .indexAccess base (some index) loc, x, hwell, h => by
      cases hb : targetText base with
      | none => simp [targetText, hb] at h
      | some y =>
        cases hi : targetText index with
        | none => simp [targetText, hb, hi] at h
        | some i =>
          obtain rfl : y ++ "[" ++ i ++ "]" = x := by simpa [targetText, hb, hi] using h
          have hbase :=
            spells_of_targetText (hwell.of_mem_children (by simp [Expression.children])) hb
          have hindex :=
            spells_of_targetText (hwell.of_mem_children (by simp [Expression.children])) hi
          have hspells : Spells (.indexAccess base (some index) loc) _ := .index hbase hindex
          simpa using hspells
  | .memberAccess base member loc, x, hwell, h => by
      cases hb : targetText base with
      | none => simp [targetText, hb] at h
      | some y =>
        obtain rfl : y ++ "." ++ member = x := by simpa [targetText, hb] using h
        have hbase :=
          spells_of_targetText (hwell.of_mem_children (by simp [Expression.children])) hb
        have hspells : Spells (.memberAccess base member loc) _ := .member hbase hwell.isProper
        simpa using hspells
  | .functionCall .., _, _, h | .callOptions .., _, _, h | .binaryOperation .., _, _, h
  | .unaryOperation .., _, _, h | .conditional .., _, _, h | .tuple .., _, _, h
  | .newExpression .., _, _, h | .elementaryTypeName .., _, _, h | .other .., _, _, h => by
      cases h

theorem sameTarget_iff {a b : Expression} :
    sameTarget a b = true ↔ ∃ x, targetText a = some x ∧ targetText b = some x := by
  unfold sameTarget
  constructor
  · intro h
    split at h
    · next x y hx hy => exact ⟨x, hx, by rw [hy, beq_iff_eq.1 h]⟩
    · cases h
  · rintro ⟨x, hx, hy⟩
    simp [hx, hy]

/-- **Same spelling, same target**, except for locations and units. -/
theorem sameTarget_iff_spelledAlike {a b : Expression} (ha : a.WellSpelled) (hb : b.WellSpelled) :
    sameTarget a b = true ↔ SpelledAlike a b := by
  rw [sameTarget_iff]
  constructor
  · rintro ⟨x, hx, hy⟩
    exact (Spells.unique (spells_of_targetText ha hx) (spells_of_targetText hb hy) (.inl rfl)
      (.inl rfl) rfl).1
  · exact SpelledAlike.exists_targetText

/-! ## Assignments -/

/-- The expression adds one to that target or subtracts one from it. -/
inductive IsStepOf : Expression → Expression → Prop
  | plusOne (target : Expression) (one loc : Location) :
      IsStepOf (.binaryOperation "+" target (.literal .number "1" none one) loc) target
  | onePlus (target : Expression) (one loc : Location) :
      IsStepOf (.binaryOperation "+" (.literal .number "1" none one) target loc) target
  | minusOne (target : Expression) (one loc : Location) :
      IsStepOf (.binaryOperation "-" target (.literal .number "1" none one) loc) target

theorem IsStepOf.mem_children {right target : Expression} (h : IsStepOf right target) :
    target ∈ right.children := by
  cases h <;> simp [Expression.children]

/-- An assignment is an idiom exactly if it steps something spelled like its left side. -/
theorem isSome_assignmentIdiom?_iff (left right : Expression) :
    (assignmentIdiom? "=" left right).isSome = true
      ↔ ∃ target, IsStepOf right target ∧ sameTarget left target = true := by
  constructor
  · intro h
    cases right with
    | binaryOperation operator a b loc =>
      by_cases hplus : operator = "+"
      · subst hplus
        simp only [assignmentIdiom?] at h
        split at h
        · next hright =>
          rw [Bool.and_eq_true, Expression.isNumberOne_iff] at hright
          obtain ⟨hsame, one, rfl⟩ := hright
          exact ⟨a, .plusOne a one loc, hsame⟩
        · split at h
          · next hleft =>
            rw [Bool.and_eq_true, Expression.isNumberOne_iff] at hleft
            obtain ⟨⟨one, rfl⟩, hsame⟩ := hleft
            exact ⟨b, .onePlus b one loc, hsame⟩
          · cases h
      · by_cases hminus : operator = "-"
        · subst hminus
          simp only [assignmentIdiom?] at h
          split at h
          · next hright =>
            rw [Bool.and_eq_true, Expression.isNumberOne_iff] at hright
            obtain ⟨hsame, one, rfl⟩ := hright
            exact ⟨a, .minusOne a one loc, hsame⟩
          · cases h
        · simp [assignmentIdiom?, hplus, hminus] at h
    | _ => simp [assignmentIdiom?] at h
  · rintro ⟨target, hstep, hsame⟩
    have hone : ∀ loc, (Expression.literal .number "1" none loc).isNumberOne = true := fun _ => rfl
    cases hstep with
    | plusOne one loc => simp [assignmentIdiom?, hsame, hone]
    | onePlus one loc =>
      simp only [assignmentIdiom?, hsame, hone, Bool.and_self, if_true]
      split <;> rfl
    | minusOne one loc => simp [assignmentIdiom?, hsame, hone]

/-- Is the expression reported as an increment or decrement? -/
def IsReportedStep (e : Expression) : Prop :=
  ∃ d ∈ increment e, d.ruleId = Rule.incrementIdiom.id

theorem isReportedStep_iff (e : Expression) :
    IsReportedStep e ↔ (incrementIdiom? e).isSome = true := by
  unfold IsReportedStep
  rw [increment_eq]
  cases incrementIdiom? e with
  | none => simp
  | some idiom => simp [Rule.diagnostic]

/-- **The assignments that are reported as increments or decrements** are those whose right side
    adds or subtracts one, without a unit, from a target that is the left side except for locations
    and the units of numbers. It is the left side, but for locations, exactly when the units are the
    same too. -/
theorem increment_assignment_iff (s : Source) {e : Expr} {left right : Expression} {loc : Location}
    (hwell : e.WellSpelled) (hlower : Expression.lower s e = .binaryOperation "=" left right loc) :
    (IsReportedStep (Expression.lower s e)
        ↔ ∃ target, IsStepOf right target ∧ SpelledAlike left target)
    ∧ ∀ target, SpelledAlike left target →
        (left.unlocated = target.unlocated ↔ targetUnits left = targetUnits target) := by
  have hsides := Expression.wellSpelled_lower s hwell
  rw [hlower] at hsides ⊢
  have hleft : left.WellSpelled := hsides.of_mem_children (by simp [Expression.children])
  have hright : right.WellSpelled := hsides.of_mem_children (by simp [Expression.children])
  refine ⟨?_, fun target h => h.unlocated_eq_iff⟩
  rw [isReportedStep_iff, incrementIdiom?, isSome_assignmentIdiom?_iff]
  refine exists_congr fun target => and_congr_right fun hstep => ?_
  exact sameTarget_iff_spelledAlike hleft (hright.of_mem_children hstep.mem_children)

/-- `pos[i].size = pos[i].size + 1`. -/
def sizeStep : Expr :=
  .assignment .assign (size 0)
    (.binary .add (size 14) (.numberLiteral "1" "" none ⟨28, 29⟩) ⟨14, 29⟩) ⟨0, 29⟩
where
  /-- `pos[i].size`, at that offset. -/
  size (start : Nat) : Expr :=
    .member (.index (.identifier ⟨"pos", ⟨start, start + 3⟩⟩)
      (some (.identifier ⟨"i", ⟨start + 4, start + 5⟩⟩)) ⟨start, start + 6⟩)
      ⟨"size", ⟨start + 7, start + 11⟩⟩ ⟨start, start + 11⟩

/-- The text of `sizeStep`. -/
def sizeStepSource : Source := .ofString "pos[i].size = pos[i].size + 1"

/-- Both sides have the same member of the same element, and so the assignment is reported. -/
theorem increment_assignment_sizeStep :
    ∃ left right loc, Expression.lower sizeStepSource sizeStep = .binaryOperation "=" left right loc
      ∧ sizeStep.WellSpelled
      ∧ (IsReportedStep (Expression.lower sizeStepSource sizeStep)
        ↔ ∃ target, IsStepOf right target ∧ SpelledAlike left target)
      ∧ ∃ target, IsStepOf right target ∧ SpelledAlike left target
        ∧ left.unlocated = target.unlocated := by
  have hwell : sizeStep.WellSpelled := by
    refine List.all_eq_true.1 ?_
    simp only [sizeStep, sizeStep.size, Expr.kept_eq, Expr.keptParts, Expr.parts,
      ParseTree.Fragment.expr?]
    decide +kernel
  refine ⟨_, _, _, rfl, hwell, (increment_assignment_iff sizeStepSource hwell rfl).1, _,
    .plusOne .., ?_⟩
  have halike : SpelledAlike (Expression.lower sizeStepSource (sizeStep.size 0))
      (Expression.lower sizeStepSource (sizeStep.size 14)) :=
    .member _ _ _ (.index _ _ (.identifier ..) (.identifier ..))
  exact ⟨halike, ((increment_assignment_iff sizeStepSource hwell rfl).2 _ halike).2 rfl⟩

/-- `list[1 days] = list[1] + 1`. -/
def daysStep : Expr :=
  .assignment .assign
    (.index (.identifier ⟨"list", ⟨0, 4⟩⟩)
      (some (.numberLiteral "1" "" (some ⟨"days", ⟨7, 11⟩⟩) ⟨5, 11⟩)) ⟨0, 12⟩)
    (.binary .add
      (.index (.identifier ⟨"list", ⟨15, 19⟩⟩) (some (.numberLiteral "1" "" none ⟨20, 21⟩))
        ⟨15, 22⟩)
      (.numberLiteral "1" "" none ⟨25, 26⟩) ⟨15, 26⟩) ⟨0, 26⟩

/-- The text of `daysStep`. -/
def daysStepSource : Source := .ofString "list[1 days] = list[1] + 1"

/-- A source with that assignment in it. -/
def daysStepFile : String :=
  "contract Vault\x7bfunction probe()external\x7blist[1 days] = list[1] + 1;\x7d\x7d"

/-- The right side steps another element than the left side, yet the assignment is reported, and so
    it is in a file. -/
theorem daysStep_reported :
    daysStep.WellSpelled
    ∧ IsReportedStep (Expression.lower daysStepSource daysStep)
    ∧ (∃ left right loc, Expression.lower daysStepSource daysStep
          = .binaryOperation "=" left right loc
        ∧ ∀ target, IsStepOf right target → left.unlocated ≠ target.unlocated)
    ∧ (Settings.default.analyseSource "Vault.sol" daysStepFile).toOption.map
        (fun r => r.diagnostics.map Diagnostic.message)
      = some ["use \"++list[1]\" instead of \"list[1] = list[1] + 1\""] := by
  refine ⟨?_, ?_, ⟨_, _, _, rfl, ?_⟩, ?_⟩
  · refine List.all_eq_true.1 ?_
    simp only [daysStep, Expr.kept_eq, Expr.keptParts, Expr.parts, ParseTree.Fragment.expr?]
    decide +kernel
  · rw [isReportedStep_iff]
    decide +kernel
  · intro target hstep
    -- Whatever is stepped is an operand, and neither operand is the left side.
    have hmem := hstep.mem_children
    simp only [Expression.lower, Expression.lowerOption, Expression.children, List.mem_cons,
      List.not_mem_nil, or_false] at hmem ⊢
    rcases hmem with rfl | rfl <;> simp [Expression.unlocated, Expression.unlocatedOption]
  · decide +kernel

end Check

end SolidityLint
