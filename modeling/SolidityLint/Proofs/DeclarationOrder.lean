import Mathlib.Data.List.Chain
import Mathlib.Data.Nat.Basic
import Mathlib.Logic.Relation
import Mathlib.Order.Bounds.Defs
import Mathlib.Order.Lattice
import SolidityLint.Proofs.RuleFindings

set_option autoImplicit false

/-! # Order of declarations

The checks of items and of members go from left to right and compare an entry with the category
before it only. What they decide is about entries at any distance: one *falls back* when some entry
before it has a greater category (`FallsBack`). Both stop at the first entry at fault, and the
finding there names the greatest category before it (`StopsAtFirst`, `NamesGreatest`). The loop
invariant is `InOrder`: what was passed has ascending categories, and the one carried along is the
last of them, hence the greatest.

Functions are compared by rank, again with their neighbours only, and again what is decided is about
any two of them (`FunctionsInverted`). The outcome depends on the sequence of ranks alone, which
other members and the order among equals do not change (`Rearranges`). -/

namespace SolidityLint.Check

open Ast

/-! ## The expected order of categories -/

theorem LayoutCategory.rank_injective : Function.Injective LayoutCategory.rank := by
  intro a b h
  cases a <;> cases b <;> simp [rank] at h ⊢

instance : LinearOrder LayoutCategory :=
  LinearOrder.lift' LayoutCategory.rank LayoutCategory.rank_injective

theorem MemberCategory.rank_injective : Function.Injective MemberCategory.rank := by
  intro a b h
  cases a <;> cases b <;> simp [rank] at h ⊢

instance : LinearOrder MemberCategory :=
  LinearOrder.lift' MemberCategory.rank MemberCategory.rank_injective

/-! ## Entries that fall back -/

section FallsBack

variable {α κ : Type} (category? : α → Option κ)

/-- The category of the entry at position `j`, if there is an entry and it has one. -/
def categoryAt (xs : List α) (j : Nat) : Option κ :=
  xs[j]?.bind category?

/-- The categories of the entries before position `j`. -/
def categoriesBefore (xs : List α) (j : Nat) : Set κ :=
  {b | ∃ i < j, categoryAt category? xs i = some b}

variable {category?} {xs before rest : List α} {x : α} {b c p : κ} {previous : Option κ} {j : Nat}

theorem categoryAt_eq_some_iff :
    categoryAt category? xs j = some c ↔ ∃ hj : j < xs.length, category? xs[j] = some c := by
  unfold categoryAt
  rw [Option.bind_eq_some_iff]
  constructor
  · rintro ⟨x, hx, hc⟩
    obtain ⟨hj, rfl⟩ := List.getElem?_eq_some_iff.1 hx
    exact ⟨hj, hc⟩
  · rintro ⟨hj, hc⟩
    exact ⟨xs[j], List.getElem?_eq_getElem hj, hc⟩

theorem categoryAt_append_of_lt (h : j < before.length) :
    categoryAt category? (before ++ rest) j = categoryAt category? before j := by
  unfold categoryAt
  rw [List.getElem?_append_left h]

theorem categoryAt_append_cons :
    categoryAt category? (before ++ x :: rest) before.length = category? x := by
  simp [categoryAt]

theorem mem_categoriesBefore_iff :
    b ∈ categoriesBefore category? (before ++ rest) before.length
      ↔ b ∈ before.filterMap category? := by
  rw [List.mem_filterMap]
  constructor
  · rintro ⟨i, hi, hb⟩
    rw [categoryAt_append_of_lt hi] at hb
    obtain ⟨hi, hb⟩ := categoryAt_eq_some_iff.1 hb
    exact ⟨before[i], List.getElem_mem hi, hb⟩
  · rintro ⟨y, hy, hb⟩
    obtain ⟨i, hi, rfl⟩ := List.getElem_of_mem hy
    refine ⟨i, hi, ?_⟩
    rw [categoryAt_append_of_lt hi]
    exact categoryAt_eq_some_iff.2 ⟨hi, hb⟩

variable [LinearOrder κ]

variable (category?) in
/-- The entry at position `j` has a smaller category than some entry before it. -/
def FallsBack (xs : List α) (j : Nat) : Prop :=
  ∃ c, categoryAt category? xs j = some c ∧ ∃ b ∈ categoriesBefore category? xs j, c < b

/-- **Nothing falls back iff the categories are ascending.** -/
theorem forall_not_fallsBack_iff :
    (∀ j, ¬ FallsBack category? xs j) ↔ (xs.filterMap category?).Pairwise (· ≤ ·) := by
  rw [List.pairwise_filterMap, List.pairwise_iff_getElem]
  constructor
  · intro h i j hi hj hij b hb c hc
    by_contra hle
    exact h j ⟨c, categoryAt_eq_some_iff.2 ⟨hj, hc⟩, b,
      ⟨i, hij, categoryAt_eq_some_iff.2 ⟨hi, hb⟩⟩, not_le.1 hle⟩
  · rintro h j ⟨c, hc, b, ⟨i, hij, hb⟩, hlt⟩
    obtain ⟨hj, hc⟩ := categoryAt_eq_some_iff.1 hc
    obtain ⟨hi, hb⟩ := categoryAt_eq_some_iff.1 hb
    exact absurd hlt (not_lt.2 (h i j hi hj hij b hb c hc))

theorem fallsBack_append_iff (h : j < before.length) :
    FallsBack category? (before ++ rest) j ↔ FallsBack category? before j := by
  have hbefore : categoriesBefore category? (before ++ rest) j
      = categoriesBefore category? before j := by
    ext b
    refine exists_congr fun i => and_congr_right fun hi => ?_
    rw [categoryAt_append_of_lt (Nat.lt_trans hi h)]
  unfold FallsBack
  rw [categoryAt_append_of_lt h, hbefore]

/-! ### The loop invariant -/

variable (category?) in
/-- What holds of the entries passed and the category carried along. -/
structure InOrder (before : List α) (previous : Option κ) : Prop where
  ascending : (before.filterMap category?).Pairwise (· ≤ ·)
  last : (before.filterMap category?).getLast? = previous

namespace InOrder

theorem nil : InOrder category? [] none := ⟨.nil, rfl⟩

theorem passOver (h : InOrder category? before previous) (hx : category? x = none) :
    InOrder category? (before ++ [x]) previous := by
  have hsame : (before ++ [x]).filterMap category? = before.filterMap category? := by simp [hx]
  exact ⟨hsame ▸ h.ascending, hsame ▸ h.last⟩

/-- The category carried along is the greatest so far. -/
theorem le_previous (h : InOrder category? before (some p))
    (hb : b ∈ before.filterMap category?) : b ≤ p := by
  obtain ⟨front, hfront⟩ := List.getLast?_eq_some_iff.1 h.last
  have hascending := h.ascending
  rw [hfront] at hb hascending
  rcases List.mem_append.1 hb with hb | hb
  · exact (List.pairwise_append.1 hascending).2.2 b hb p (by simp)
  · exact (List.mem_singleton.1 hb).le

theorem next (h : InOrder category? before previous) (hx : category? x = some c)
    (hle : ∀ p ∈ previous, p ≤ c) : InOrder category? (before ++ [x]) (some c) := by
  have hgrown : (before ++ [x]).filterMap category? = before.filterMap category? ++ [c] := by
    simp [hx]
  refine ⟨?_, by rw [hgrown, List.getLast?_concat]⟩
  rw [hgrown, List.pairwise_append]
  refine ⟨h.ascending, List.pairwise_singleton _ c, fun b hb d hd => ?_⟩
  rw [List.mem_singleton.1 hd]
  cases previous with
  | none => simp [List.getLast?_eq_none_iff.1 h.last] at hb
  | some p => exact (h.le_previous hb).trans (hle p rfl)

theorem not_fallsBack (h : InOrder category? before previous) (j : Nat) :
    ¬ FallsBack category? before j :=
  forall_not_fallsBack_iff.2 h.ascending j

theorem not_fallsBack_append (h : InOrder category? before previous) (rest : List α) :
    ∀ i < before.length, ¬ FallsBack category? (before ++ rest) i := by
  intro i hi hback
  exact h.not_fallsBack i ((fallsBack_append_iff hi).1 hback)

theorem isGreatest (h : InOrder category? before (some p)) :
    IsGreatest (categoriesBefore category? (before ++ rest) before.length) p :=
  ⟨mem_categoriesBefore_iff.2 (List.mem_of_getLast? h.last),
    fun _ hb => h.le_previous (mem_categoriesBefore_iff.1 hb)⟩

theorem fallsBack (h : InOrder category? before (some p)) (hx : category? x = some c)
    (hlt : c < p) : FallsBack category? (before ++ x :: rest) before.length :=
  ⟨c, categoryAt_append_cons.trans hx, p, h.isGreatest.1, hlt⟩

end InOrder

end FallsBack

/-! ## Checks that stop at the first fault -/

/-- A check finds nothing if no position is at fault; else it has one finding, that of the first
    such position. -/
def StopsAtFirst (fault : Nat → Prop) (finding : Nat → Diagnostic → Prop)
    (found : List Diagnostic) : Prop :=
  ((∀ j, ¬ fault j) ∧ found = [])
    ∨ ∃ j d, IsLeast {i | fault i} j ∧ finding j d ∧ found = [d]

namespace StopsAtFirst

variable {fault : Nat → Prop} {finding : Nat → Diagnostic → Prop} {found : List Diagnostic}

theorem stop {j : Nat} {d : Diagnostic} (hj : fault j) (hbefore : ∀ i < j, ¬ fault i)
    (hd : finding j d) : StopsAtFirst fault finding [d] :=
  .inr ⟨j, d, ⟨hj, fun i hi => Nat.le_of_not_lt fun hlt => hbefore i hlt hi⟩, hd, rfl⟩

theorem eq_nil_iff (h : StopsAtFirst fault finding found) : found = [] ↔ ∀ j, ¬ fault j := by
  rcases h with ⟨hnone, rfl⟩ | ⟨j, d, hj, -, rfl⟩
  · simpa using hnone
  · simpa using ⟨j, hj.1⟩

end StopsAtFirst

/-- A finding of the rule `ruleId` about the entry at position `j`: it is located where the entry
    is, and its text is made of the entry's category and the greatest category before it. -/
def NamesGreatest {α κ : Type} [LinearOrder κ] (category? : α → Option κ) (locate : α → Location)
    (ruleId : String) (text : κ → κ → String) (xs : List α) (j : Nat) (d : Diagnostic) : Prop :=
  ∃ x c greatest, xs[j]? = some x ∧ category? x = some c
    ∧ IsGreatest (categoriesBefore category? xs j) greatest
    ∧ d.ruleId = ruleId ∧ d.location = locate x ∧ d.message = text c greatest

theorem InOrder.namesGreatest {α κ : Type} [LinearOrder κ] {category? : α → Option κ}
    {locate : α → Location} {ruleId : String} {text : κ → κ → String} {before rest : List α}
    {x : α} {c p : κ} {d : Diagnostic} (h : InOrder category? before (some p))
    (hx : category? x = some c) (hrule : d.ruleId = ruleId) (hloc : d.location = locate x)
    (htext : d.message = text c p) :
    NamesGreatest category? locate ruleId text (before ++ x :: rest) before.length d :=
  ⟨x, c, p, by simp, hx, h.isGreatest, hrule, hloc, htext⟩

/-! ### Items of a file -/

/-- The item at position `j` has no category, or it falls back. -/
def ItemAtFault (items : List TopLevelItem) (j : Nat) : Prop :=
  (∃ item, items[j]? = some item ∧ LayoutCategory.ofItem? item = none)
    ∨ FallsBack LayoutCategory.ofItem? items j

/-- The name that a reader is given for a category of items. -/
def itemTitle : LayoutCategory → String
  | .pragma => "pragma directive"
  | .importDirective => "import directive"
  | .event => "event definition"
  | .error => "error definition"
  | .interface => "interface"
  | .library => "library"
  | .contract => "contract"

/-- What is read about an item at position `j` that belongs before items of category `greatest`. -/
def itemAdvice (j : Nat) (category greatest : LayoutCategory) : String :=
  itemTitle category ++ " at position " ++ toString j
    ++ " is out of order: it should come before any " ++ itemTitle greatest

theorem itemOutOfOrderMessage_eq_itemAdvice (j : Nat) (category greatest : LayoutCategory) :
    itemOutOfOrderMessage j category greatest = itemAdvice j category greatest := by
  have htitle : LayoutCategory.label = itemTitle := by
    funext c
    cases c <;> rfl
  unfold itemOutOfOrderMessage itemAdvice
  rw [htitle]

/-- The note about an item that has no category. -/
def NotesUnknown (items : List TopLevelItem) (j : Nat) (d : Diagnostic) : Prop :=
  ∃ item, items[j]? = some item ∧ LayoutCategory.ofItem? item = none
    ∧ d.ruleId = "SOL-L002" ∧ d.location = item.toNode.loc
    ∧ d.message = "unknown top-level " ++ item.toNode.kindName ++ " at position " ++ toString j
      ++ "; layout order not checked further"

/-- The finding for an item at fault: the note that it has no category, or the advice that names the
    greatest category before it. -/
def ItemFinding (items : List TopLevelItem) (j : Nat) (d : Diagnostic) : Prop :=
  NotesUnknown items j d
    ∨ NamesGreatest LayoutCategory.ofItem? (·.toNode.loc) "SOL-L001" (itemAdvice j) items j d

theorem itemAtFault_append_iff {before rest : List TopLevelItem} {j : Nat}
    (hj : j < before.length) : ItemAtFault (before ++ rest) j ↔ ItemAtFault before j := by
  unfold ItemAtFault
  rw [List.getElem?_append_left hj, fallsBack_append_iff hj]

/-- What holds of the items passed: each has a category, and these are in order. -/
structure ItemsInOrder (before : List TopLevelItem) (previous : Option LayoutCategory) : Prop where
  known : ∀ item ∈ before, LayoutCategory.ofItem? item ≠ none
  inOrder : InOrder LayoutCategory.ofItem? before previous

namespace ItemsInOrder

variable {before : List TopLevelItem} {previous : Option LayoutCategory}

theorem not_itemAtFault (h : ItemsInOrder before previous) (j : Nat) : ¬ ItemAtFault before j := by
  rintro (⟨item, hitem, hnone⟩ | hback)
  · exact h.known item (List.mem_of_getElem? hitem) hnone
  · exact h.inOrder.not_fallsBack j hback

theorem not_itemAtFault_append (h : ItemsInOrder before previous) (rest : List TopLevelItem) :
    ∀ i < before.length, ¬ ItemAtFault (before ++ rest) i := by
  intro i hi hfault
  exact h.not_itemAtFault i ((itemAtFault_append_iff hi).1 hfault)

theorem next (h : ItemsInOrder before previous) {item : TopLevelItem} {category : LayoutCategory}
    (hitem : LayoutCategory.ofItem? item = some category) (hle : ∀ p ∈ previous, p ≤ category) :
    ItemsInOrder (before ++ [item]) (some category) := by
  refine ⟨fun other hother => ?_, h.inOrder.next hitem hle⟩
  rcases List.mem_append.1 hother with hother | hother
  · exact h.known other hother
  · simp [List.mem_singleton.1 hother, hitem]

end ItemsInOrder

theorem layoutOrderFrom_stopsAtFirst {before : List TopLevelItem} {position : Nat}
    {previous : Option LayoutCategory} (rest : List TopLevelItem)
    (hposition : before.length = position) (h : ItemsInOrder before previous) :
    StopsAtFirst (ItemAtFault (before ++ rest)) (ItemFinding (before ++ rest))
      (layoutOrderFrom position previous rest) := by
  -- The invariant is about the items passed, so their list grows at its end with every step.
  induction rest generalizing before position previous with
  | nil =>
    rw [List.append_nil]
    exact .inl ⟨h.not_itemAtFault, rfl⟩
  | cons item rest ih =>
    subst hposition
    rw [layoutOrderFrom_cons]
    cases hitem : LayoutCategory.ofItem? item with
    | none =>
      have hat : (before ++ item :: rest)[before.length]? = some item := by simp
      exact .stop (.inl ⟨item, hat, hitem⟩) (h.not_itemAtFault_append _)
        (.inl ⟨item, hat, hitem, rfl, rfl, rfl⟩)
    | some category =>
      have hpass : (∀ p ∈ previous, p ≤ category) →
          StopsAtFirst (ItemAtFault (before ++ item :: rest)) (ItemFinding (before ++ item :: rest))
            (layoutOrderFrom (before.length + 1) (some category) rest) := by
        intro hle
        have hnext := ih List.length_append (h.next hitem hle)
        rwa [List.append_assoc] at hnext
      cases previous with
      | none => exact hpass (by simp)
      | some p =>
        by_cases hlt : category.rank < p.rank
        · simp only [if_pos hlt]
          exact .stop (.inr (h.inOrder.fallsBack hitem hlt)) (h.not_itemAtFault_append _)
            (.inr (h.inOrder.namesGreatest hitem rfl rfl
              (itemOutOfOrderMessage_eq_itemAdvice _ category p)))
        · have hle : p ≤ category := Nat.le_of_not_lt hlt
          simp only [if_neg hlt]
          exact hpass (by simpa using hle)

/-! ### Members of a contract -/

/-- The name that a reader is given for a category of members. -/
def memberTitle : MemberCategory → String
  | .struct => "struct"
  | .enum => "enum"
  | .stateVariable => "state variable"
  | .event => "event"
  | .customError => "custom error"
  | .modifier => "modifier"
  | .function => "function"

/-- What is read about a member of the contract that belongs before members of category
    `greatest`. -/
def memberAdvice (contract : String) (category greatest : MemberCategory) : String :=
  memberTitle category ++ " in \"" ++ contract
    ++ "\" is out of order: it should come before any " ++ memberTitle greatest

theorem memberOutOfOrderMessage_eq_memberAdvice (contract : String)
    (category greatest : MemberCategory) :
    memberOutOfOrderMessage contract category greatest
      = memberAdvice contract category greatest := by
  have htitle : MemberCategory.label = memberTitle := by
    funext c
    cases c <;> rfl
  unfold memberOutOfOrderMessage memberAdvice
  rw [htitle]

/-- The finding for a member that falls back names the greatest category before it. -/
def MemberFinding (contract : String) : List Member → Nat → Diagnostic → Prop :=
  NamesGreatest MemberCategory.ofMember? (·.toNode.loc) "SOL-L003" (memberAdvice contract)

theorem contractOrderFrom_stopsAtFirst (contract : String) {before : List Member}
    {previous : Option MemberCategory} (rest : List Member)
    (h : InOrder MemberCategory.ofMember? before previous) :
    StopsAtFirst (FallsBack MemberCategory.ofMember? (before ++ rest))
      (MemberFinding contract (before ++ rest)) (contractOrderFrom contract previous rest) := by
  induction rest generalizing before previous with
  | nil =>
    rw [List.append_nil]
    exact .inl ⟨h.not_fallsBack, rfl⟩
  | cons member rest ih =>
    rw [contractOrderFrom_cons]
    cases hmember : MemberCategory.ofMember? member with
    | none =>
      have hnext := ih (h.passOver hmember)
      rwa [List.append_assoc] at hnext
    | some category =>
      have hpass : (∀ p ∈ previous, p ≤ category) →
          StopsAtFirst (FallsBack MemberCategory.ofMember? (before ++ member :: rest))
            (MemberFinding contract (before ++ member :: rest))
            (contractOrderFrom contract (some category) rest) := by
        intro hle
        have hnext := ih (h.next hmember hle)
        rwa [List.append_assoc] at hnext
      cases previous with
      | none => exact hpass (by simp)
      | some p =>
        by_cases hlt : category.rank < p.rank
        · simp only [if_pos hlt]
          exact .stop (h.fallsBack hmember hlt) (h.not_fallsBack_append _)
            (h.namesGreatest hmember rfl rfl
              (memberOutOfOrderMessage_eq_memberAdvice contract category p))
        · have hle : p ≤ category := Nat.le_of_not_lt hlt
          simp only [if_neg hlt]
          exact hpass (by simpa using hle)

theorem contractOrderFrom_filter_known (contract : String) (previous : Option MemberCategory)
    (members : List Member) :
    contractOrderFrom contract previous
        (members.filter fun member => (MemberCategory.ofMember? member).isSome)
      = contractOrderFrom contract previous members := by
  induction members generalizing previous with
  | nil => rfl
  | cons member rest ih =>
    rw [contractOrderFrom_cons]
    cases hmember : MemberCategory.ofMember? member with
    | none => rw [List.filter_cons_of_neg (by simp [hmember]), ih]
    | some category =>
      rw [List.filter_cons_of_pos (by simp [hmember]), contractOrderFrom_cons, hmember]
      simp only [ih]

/-- **Stopping at the first fault decides the order of all entries.** The items of a file are
    reported at the first position that has no category or falls back behind any item before it, and
    not at all if there is none. So are the members of a contract, where a member without a category
    is as good as absent; a contract is silent iff no member falls back. The one finding is located
    at the entry, and for an entry that falls back it names the greatest category before it. -/
theorem order_checks_stop_at_first_fault :
    (∀ unit : SourceUnit,
        StopsAtFirst (ItemAtFault unit.items) (ItemFinding unit.items) (layoutOrder unit))
      ∧ ∀ contract : ContractDefinition,
        StopsAtFirst (FallsBack MemberCategory.ofMember? contract.members)
            (MemberFinding contract.name contract.members) (contractOrder contract)
          ∧ contractOrder { contract with
                members := contract.members.filter (MemberCategory.ofMember? · |>.isSome) }
            = contractOrder contract
          ∧ (contractOrder contract = []
              ↔ ∀ j, ¬ FallsBack MemberCategory.ofMember? contract.members j) := by
  refine ⟨fun unit => ?_, fun contract => ⟨?_, ?_, ?_⟩⟩
  · exact layoutOrderFrom_stopsAtFirst unit.items rfl ⟨by simp, .nil⟩
  · exact contractOrderFrom_stopsAtFirst contract.name contract.members .nil
  · exact contractOrderFrom_filter_known contract.name none contract.members
  · exact (contractOrderFrom_stopsAtFirst contract.name contract.members .nil).eq_nil_iff

/-! ## Functions of a contract -/

/-- What a function is among the others: one of the three special kinds, or a regular function of
    some visibility. -/
inductive FunctionRole where
  | constructor
  | receive
  | fallback
  | regular (visibility : Visibility)
deriving DecidableEq

namespace FunctionRole

/-- The role of a function; the three special kinds have one whatever their visibility. -/
def ofFunction (f : FunctionDefinition) : FunctionRole :=
  match f.kind with
  | .constructor => constructor
  | .receive => receive
  | .fallback => fallback
  | .function => regular f.visibility

/-- The roles in the order in which functions are expected. -/
def expected : List FunctionRole :=
  [constructor, receive, fallback, regular .external, regular .pub, regular .internal,
    regular .priv, regular .unspecified]

end FunctionRole

/-- A function's place in the expected order. -/
def expectedPlace (f : FunctionDefinition) : Nat :=
  FunctionRole.expected.idxOf (FunctionRole.ofFunction f)

theorem functionRank_eq_expectedPlace : functionRank = expectedPlace := by
  funext f
  unfold functionRank expectedPlace FunctionRole.ofFunction
  cases f.kind with
  | function => cases f.visibility <;> rfl
  | _ => rfl

/-- The function that a member is. -/
def functionOf? : Member → Option FunctionDefinition
  | .function f => some f
  | _ => none

/-- The expected place of the function that a member is. -/
def memberPlace? (m : Member) : Option Nat :=
  (functionOf? m).map expectedPlace

theorem categoryAt_memberPlace?_iff {members : List Member} {i place : Nat} :
    categoryAt memberPlace? members i = some place
      ↔ ∃ f, members[i]? = some (.function f) ∧ expectedPlace f = place := by
  have hmember : ∀ m, memberPlace? m = some place
      ↔ ∃ f, m = .function f ∧ expectedPlace f = place := by
    intro m
    cases m <;> simp [memberPlace?, functionOf?]
  unfold categoryAt
  rw [Option.bind_eq_some_iff]
  constructor
  · rintro ⟨m, hm, hplace⟩
    obtain ⟨f, rfl, hf⟩ := (hmember m).1 hplace
    exact ⟨f, hm, hf⟩
  · rintro ⟨f, hm, hf⟩
    exact ⟨_, hm, (hmember _).2 ⟨f, rfl, hf⟩⟩

/-- Of two functions among the members, at whatever distance, the later is expected first. -/
def FunctionsInverted (members : List Member) : Prop :=
  ∃ (i j : Nat) (f g : FunctionDefinition), i < j ∧ members[i]? = some (.function f)
    ∧ members[j]? = some (.function g) ∧ expectedPlace g < expectedPlace f

theorem functionsInverted_iff {members : List Member} :
    FunctionsInverted members ↔ ∃ j, FallsBack memberPlace? members j := by
  constructor
  · rintro ⟨i, j, f, g, hij, hf, hg, hlt⟩
    exact ⟨j, _, categoryAt_memberPlace?_iff.2 ⟨g, hg, rfl⟩, _,
      ⟨i, hij, categoryAt_memberPlace?_iff.2 ⟨f, hf, rfl⟩⟩, hlt⟩
  · rintro ⟨j, c, hc, b, ⟨i, hij, hb⟩, hlt⟩
    obtain ⟨g, hg, rfl⟩ := categoryAt_memberPlace?_iff.1 hc
    obtain ⟨f, hf, rfl⟩ := categoryAt_memberPlace?_iff.1 hb
    exact ⟨i, j, f, g, hij, hf, hg, hlt⟩

theorem map_functionRank_functions (contract : ContractDefinition) :
    contract.functions.map functionRank = contract.members.filterMap memberPlace? := by
  rw [functionRank_eq_expectedPlace, ContractDefinition.functions, List.map_filterMap]
  rfl

theorem ascending_iff_pairwise {ranks : List Nat} :
    ascending ranks = true ↔ ranks.Pairwise (· ≤ ·) := by
  rw [← List.isChain_iff_pairwise]
  fun_induction ascending ranks with
  | case1 a b rest ih => simp [ih]
  | case2 ranks hshort =>
    rcases ranks with _ | ⟨a, _ | ⟨b, rest⟩⟩
    · simp
    · simp
    · exact absurd rfl (hshort a b rest)

theorem pairwise_iff_mergeSort_eq {ranks : List Nat} :
    ranks.Pairwise (· ≤ ·) ↔ ranks.mergeSort = ranks := by
  constructor
  · intro h
    exact List.mergeSort_of_pairwise (by simpa using h)
  · intro h
    have hsorted : ranks.mergeSort.Pairwise fun a b => decide (a ≤ b) = true :=
      List.pairwise_mergeSort (by simpa using fun a b c => Nat.le_trans)
        (by simpa using Nat.le_total) ranks
    rw [h] at hsorted
    simpa using hsorted

theorem ascending_places_iff {members : List Member} :
    ascending (members.filterMap memberPlace?) = true ↔ ¬ FunctionsInverted members := by
  rw [ascending_iff_pairwise, ← forall_not_fallsBack_iff, functionsInverted_iff, not_exists]

instance (members : List Member) : Decidable (FunctionsInverted members) :=
  decidable_of_iff (¬ ascending (members.filterMap memberPlace?) = true)
    (by rw [ascending_places_iff, not_not])

/-- The finding for a contract whose functions are out of order. -/
def functionOrderFinding (contract : ContractDefinition) : Diagnostic :=
  Rule.functionOrder.diagnostic
    ("function order is wrong in " ++ contract.kind.label ++ " \"" ++ contract.name ++ "\"")
    contract.loc

theorem functionOrder_eq_ite (contract : ContractDefinition) :
    functionOrder contract
      = if FunctionsInverted contract.members then [functionOrderFinding contract] else [] := by
  rw [functionOrder_eq, map_functionRank_functions]
  by_cases h : FunctionsInverted contract.members
  · rw [if_pos h, if_neg (mt ascending_places_iff.1 (not_not.2 h))]
    rfl
  · rw [if_neg h, if_pos (ascending_places_iff.2 h)]

/-- The ranks are compared with their neighbours, which tells as much as sorting them would. -/
theorem functionOrder_eq_nil_iff_sorted (contract : ContractDefinition) :
    functionOrder contract = []
      ↔ (contract.functions.map functionRank).mergeSort = contract.functions.map functionRank := by
  rw [functionOrder_eq_ite, map_functionRank_functions, ← pairwise_iff_mergeSort_eq,
    ← ascending_iff_pairwise, ascending_places_iff]
  split <;> simp_all

/-! ### Changes that the check does not see -/

/-- One change to the members of a contract: a member that is no function is inserted, removed or
    moved, or two functions of the same place with no function between them change places. -/
inductive Rearranges : List Member → List Member → Prop where
  | insert (before after : List Member) {m : Member} (hm : functionOf? m = none) :
      Rearranges (before ++ after) (before ++ m :: after)
  | remove (before after : List Member) {m : Member} (hm : functionOf? m = none) :
      Rearranges (before ++ m :: after) (before ++ after)
  | moveBack (before between after : List Member) {m : Member} (hm : functionOf? m = none) :
      Rearranges (before ++ m :: (between ++ after)) (before ++ (between ++ m :: after))
  | moveForward (before between after : List Member) {m : Member} (hm : functionOf? m = none) :
      Rearranges (before ++ (between ++ m :: after)) (before ++ m :: (between ++ after))
  | swap (before between after : List Member) {f g : FunctionDefinition}
      (hbetween : ∀ m ∈ between, functionOf? m = none)
      (hplace : expectedPlace f = expectedPlace g) :
      Rearranges (before ++ .function f :: (between ++ .function g :: after))
        (before ++ .function g :: (between ++ .function f :: after))

theorem Rearranges.filterMap_memberPlace?_eq {members members' : List Member}
    (h : Rearranges members members') :
    members.filterMap memberPlace? = members'.filterMap memberPlace? := by
  cases h with
  | insert before after hm => simp [memberPlace?, hm]
  | remove before after hm => simp [memberPlace?, hm]
  | moveBack before between after hm => simp [memberPlace?, hm]
  | moveForward before between after hm => simp [memberPlace?, hm]
  | swap before between after hbetween hplace =>
    have hnone : between.filterMap memberPlace? = [] :=
      List.filterMap_eq_nil_iff.2 fun m hm => by simp [memberPlace?, hbetween m hm]
    simp [hnone, memberPlace?, functionOf?, hplace]

theorem filterMap_memberPlace?_of_reflTransGen {members members' : List Member}
    (h : Relation.ReflTransGen Rearranges members members') :
    members.filterMap memberPlace? = members'.filterMap memberPlace? := by
  induction h with
  | refl => rfl
  | tail _ hstep ih => rw [ih, hstep.filterMap_memberPlace?_eq]

theorem functionOrder_rearranged (contract : ContractDefinition) {members : List Member}
    (h : Relation.ReflTransGen Rearranges contract.members members) :
    functionOrder { contract with members } = functionOrder contract := by
  rw [functionOrder_eq, functionOrder_eq, map_functionRank_functions, map_functionRank_functions,
    filterMap_memberPlace?_of_reflTransGen h]
  rfl

/-- **Function order is reported exactly on an inversion.** A contract has one finding, at its own
    location, if some function is expected before one that precedes it, at whatever distance and
    whatever stands between them, and none otherwise; that is, if the ranks are not the same once
    sorted. Members that are no functions may come, go and move, and functions of the same place
    that follow each other may change places: the outcome stays the same. -/
theorem function_order_reported_on_inversion (contract : ContractDefinition) :
    functionOrder contract
        = (if FunctionsInverted contract.members then [functionOrderFinding contract] else [])
      ∧ (functionOrder contract = []
          ↔ (contract.functions.map functionRank).mergeSort = contract.functions.map functionRank)
      ∧ ∀ members, Relation.ReflTransGen Rearranges contract.members members →
          functionOrder { contract with members } = functionOrder contract :=
  ⟨functionOrder_eq_ite contract, functionOrder_eq_nil_iff_sorted contract,
    fun _ h => functionOrder_rearranged contract h⟩

/-- A contract `Vault { function _move() private; … function pay() external; }`. -/
def privateFirst (between : List Member) : ContractDefinition :=
  let declare (name : String) (visibility : Visibility) : Member :=
    .function ⟨some name, .function, visibility, false, [], [], none, .zero⟩
  ⟨"Vault", .contract, [], declare "_move" .priv :: (between ++ [declare "pay" .external]), .zero⟩

/-- The inversion is reported with and without an event between the two functions. -/
theorem function_order_reported_on_inversion_privateFirst :
    let event : Member := .event ⟨"Paid", [], false, .zero⟩
    Relation.ReflTransGen Rearranges (privateFirst []).members (privateFirst [event]).members
      ∧ functionOrder (privateFirst []) = [functionOrderFinding (privateFirst [])]
      ∧ functionOrder (privateFirst [event]) = functionOrder (privateFirst []) := by
  intro event
  have hinsert : Relation.ReflTransGen Rearranges (privateFirst []).members
      (privateFirst [event]).members := .single (.insert [_] [_] rfl)
  obtain ⟨hreport, -, hsame⟩ := function_order_reported_on_inversion (privateFirst [])
  exact ⟨hinsert, hreport.trans (if_pos (by decide)), hsame _ hinsert⟩

end SolidityLint.Check
