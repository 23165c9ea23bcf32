import SolidityLint.Proofs.DumpLocations

set_option autoImplicit false

/-! # The JSON form can be read back

The reader of syntax trees is lenient: it takes members in any order, fills in what is missing and
bounds the nesting by the depth of the value. This file shows that on what the writer writes it is
exact, so the JSON form loses nothing and two trees never share one.

The writer and the reader are both one function for each type, and so are the lemmas: what is
written reads back (`…ofJson?_toJson`). Expressions and statements nest in themselves. For these the
step lemma (`Expression.ofShape?_toJson`, `Statement.ofShape?_toJson`) takes any reader of the parts
and asks only that it reads the parts below back; the bound on the nesting goes down by one with
each level because the value of a part is less deep than the value it lies in
(`Expression.depth_toJson_lt`, `Statement.depth_toJson_lt`). -/

namespace SolidityLint

open Ast

/-! ## Reading plain values back -/

namespace Json

@[simp]
theorem text?_str (s : String) : (str s).text? = some s := rfl

@[simp]
theorem flag?_bool (b : Bool) : (bool b).flag? = some b := rfl

@[simp]
theorem optionalText?_ofOptionalText (o : Option String) :
    (ofOptionalText o).optionalText? = some o := by
  cases o <;> rfl

/-- A list reads back if each of its items does. -/
theorem listOf?_arr_map {α : Type} {read : Json → Option α} {write : α → Json} {xs : List α}
    (h : ∀ x ∈ xs, read (write x) = some x) : (arr (xs.map write)).listOf? read = some xs := by
  show (xs.map write).mapM read = some xs
  induction xs with
  | nil => rfl
  | cons x rest ih =>
    have hx := h x (List.mem_cons_self ..)
    have hrest := ih fun y hy => h y (List.mem_cons_of_mem x hy)
    rw [List.map_cons, List.mapM_cons, hx, hrest]
    rfl

@[simp]
theorem texts?_ofTexts (texts : List String) : (ofTexts texts).texts? = some texts :=
  listOf?_arr_map fun _ _ => rfl

/-- A part that is there reads back as one that is there: its value is not `null`. -/
theorem optional?_of_ne_null {α : Type} {read : Json → Option α} {j : Json} {a : α}
    (hj : j ≠ null) (h : read j = some a) : j.optional? read = some (some a) := by
  cases j with
  | null => exact absurd rfl hj
  | _ => exact congrArg (Option.map some) h

/-! ### Depths -/

theorem depth_lt_of_mem_items {j : Json} {items : List Json} (h : j ∈ items) :
    j.depth < (arr items).depth := by
  rw [depth, Nat.lt_succ_iff]
  induction items with
  | nil => exact absurd h (by simp)
  | cons item rest ih =>
    rw [depthOfItems]
    rcases List.mem_cons.1 h with rfl | h
    · omega
    · have := ih h
      omega

theorem depth_lt_of_mem_values {j : Json} {members : List (String × Json)}
    (h : j ∈ members.map Prod.snd) : j.depth < (obj members).depth := by
  rw [depth, Nat.lt_succ_iff]
  induction members with
  | nil => exact absurd h (by simp)
  | cons entry rest ih =>
    rw [depthOfMembers]
    rcases List.mem_cons.1 h with rfl | h
    · omega
    · have := ih h
      omega

/-- An item of a list that an object holds. -/
theorem depth_lt_of_mem_list {j : Json} {items : List Json} {members : List (String × Json)}
    (h : j ∈ items) (hlist : arr items ∈ members.map Prod.snd) : j.depth < (obj members).depth :=
  Nat.lt_trans (depth_lt_of_mem_items h) (depth_lt_of_mem_values hlist)

theorem depth_pos (j : Json) : 0 < j.depth := by
  cases j <;> simp [depth]

end Json

namespace Ast

/-! ## Words and leaves -/

@[simp]
theorem ContractKind.ofJson?_word (k : ContractKind) : ofJson? (.str k.word) = some k := by
  cases k <;> rfl

@[simp]
theorem Visibility.ofJson?_word (v : Visibility) : ofJson? (.str v.word) = some v := by
  cases v <;> rfl

@[simp]
theorem DataLocation.ofJson?_word (o : Option DataLocation) :
    ofJson? (.ofOptionalText (o.map word)) = some o := by
  cases o with
  | none => rfl
  | some place => cases place <;> rfl

@[simp]
theorem TypeKind.ofJson?_word (k : TypeKind) : ofJson? (.str k.word) = some k := by
  cases k <;> rfl

@[simp]
theorem FunctionKind.ofJson?_word (k : FunctionKind) : ofJson? (.str k.word) = some k := by
  cases k <;> rfl

@[simp]
theorem LiteralKind.ofJson?_word (k : LiteralKind) : ofJson? (.str k.word) = some k := by
  cases k <;> rfl

@[simp]
theorem TypeName.ofJson?_toJson (t : TypeName) : TypeName.ofJson? t.toJson = some t := by
  simp [TypeName.ofJson?, TypeName.toJson, TypeName.members, Json.loc?]

@[simp]
theorem VariableDeclaration.ofJson?_toJson (v : VariableDeclaration) :
    VariableDeclaration.ofJson? v.toJson = some v := by
  simp [VariableDeclaration.ofJson?, VariableDeclaration.toJson, Json.loc?]

/-- A type name that stands as an expression carries the tag of one. -/
@[simp]
theorem TypeName.ofJson?_tagged (shape : String) (t : TypeName) :
    TypeName.ofJson? (tagged shape t.members) = some t := by
  simp [TypeName.ofJson?, tagged, TypeName.members, Json.loc?]

@[simp]
theorem OtherNode.ofJson?_tagged (shape : String) (n : OtherNode) :
    OtherNode.ofJson? (tagged shape n.members) = some n := by
  simp [OtherNode.ofJson?, tagged, OtherNode.members, Json.loc?]

@[simp]
theorem listOf?_declarations (declared : List VariableDeclaration) :
    (Json.arr (declared.map VariableDeclaration.toJson)).listOf? VariableDeclaration.ofJson?
      = some declared :=
  Json.listOf?_arr_map fun v _ => v.ofJson?_toJson

@[simp]
theorem declarations?_declarationsToJson (declared : List VariableDeclaration) :
    declarations? (declarationsToJson declared) = some declared :=
  listOf?_declarations declared

@[simp]
theorem listOf?_declarationSlots (slots : List (Option VariableDeclaration)) :
    (Json.arr (slots.map VariableDeclaration.slotToJson)).listOf?
      (Json.optional? VariableDeclaration.ofJson?) = some slots := by
  refine Json.listOf?_arr_map fun slot _ => ?_
  cases slot with
  | none => rfl
  | some v => exact Json.optional?_of_ne_null (by simp [VariableDeclaration.slotToJson,
      VariableDeclaration.toJson]) v.ofJson?_toJson

/-! ## Expressions -/

namespace Expression

theorem toJson_ne_null (e : Expression) : e.toJson ≠ .null := by
  cases e <;> simp [toJson, tagged]

@[simp]
theorem field_type_toJson (e : Expression) : e.toJson.field "type" = .str e.kindName := by
  cases e <;> simp [toJson, tagged, kindName]

@[simp]
theorem loc?_toJson (e : Expression) : e.toJson.loc? = some e.loc := by
  cases e <;> simp [toJson, tagged, TypeName.members, OtherNode.members, Json.loc?, loc]

/-- A part that may be missing reads back if it does when it is there. -/
theorem optional?_optionToJson {read : Json → Option Expression} {o : Option Expression}
    (h : ∀ e ∈ o, read e.toJson = some e) : (optionToJson o).optional? read = some o := by
  cases o with
  | none => rfl
  | some e => exact Json.optional?_of_ne_null e.toJson_ne_null (h e rfl)

theorem listOf?_listToJson {read : Json → Option Expression} {es : List Expression}
    (h : ∀ e ∈ es, read e.toJson = some e) :
    (Json.arr (listToJson es)).listOf? read = some es := by
  rw [listToJson_eq_map]
  exact Json.listOf?_arr_map h

theorem listOf?_slotsToJson {read : Json → Option Expression} {slots : List (Option Expression)}
    (h : ∀ e, some e ∈ slots → read e.toJson = some e) :
    (Json.arr (slotsToJson slots)).listOf? (Json.optional? read) = some slots := by
  rw [slotsToJson_eq_map]
  refine Json.listOf?_arr_map fun slot hslot => optional?_optionToJson fun e he => ?_
  exact h e (by rwa [← he])

/-- **One level of an expression reads back** with any reader that reads back what is directly
    below. -/
theorem ofShape?_toJson {read : Json → Option Expression} (e : Expression)
    (h : ∀ c ∈ e.children, read c.toJson = some c) :
    ofShape? read e.kindName e.toJson = some e := by
  unfold ofShape?
  rw [loc?_toJson]
  cases e with
  | memberAccess base member =>
    have hbase := h base (by simp [children])
    simp [kindName, loc, toJson, tagged, hbase]
  | indexAccess base index =>
    have hbase := h base (by simp [children])
    have hindex := optional?_optionToJson fun e (he : e ∈ index) => h e (by simp_all [children])
    simp [kindName, loc, toJson, tagged, hbase, hindex]
  | functionCall callee arguments =>
    have hcallee := h callee (by simp [children])
    have harguments := listOf?_listToJson fun e (he : e ∈ arguments) => h e (by simp [children, he])
    simp [kindName, loc, toJson, tagged, hcallee, harguments]
  | callOptions callee names values =>
    have hcallee := h callee (by simp [children])
    have hvalues := listOf?_listToJson fun e (he : e ∈ values) => h e (by simp [children, he])
    simp [kindName, loc, toJson, tagged, hcallee, hvalues]
  | binaryOperation operator left right =>
    have hleft := h left (by simp [children])
    have hright := h right (by simp [children])
    simp [kindName, loc, toJson, tagged, hleft, hright]
  | unaryOperation operator operand =>
    have hoperand := h operand (by simp [children])
    simp [kindName, loc, toJson, tagged, hoperand]
  | conditional condition ifTrue ifFalse =>
    have hcondition := h condition (by simp [children])
    have hifTrue := h ifTrue (by simp [children])
    have hifFalse := h ifFalse (by simp [children])
    simp [kindName, loc, toJson, tagged, hcondition, hifTrue, hifFalse]
  | tuple components =>
    have hcomponents := listOf?_slotsToJson fun e (he : some e ∈ components) =>
      h e (by simp [children, he])
    simp [kindName, loc, toJson, tagged, hcomponents]
  | elementaryTypeName typeName => simp [kindName, toJson]
  | other node => simp [kindName, toJson]
  | identifier | literal | newExpression => simp [kindName, loc, toJson, tagged]

/-- The value of a part is less deep than the value of the expression it lies in. -/
theorem depth_toJson_lt {e c : Expression} (h : c ∈ e.children) :
    c.toJson.depth < e.toJson.depth := by
  cases e with
  | memberAccess base member =>
    obtain rfl := List.mem_singleton.1 h
    exact Json.depth_lt_of_mem_values (by simp)
  | indexAccess base index =>
    rcases List.mem_cons.1 h with rfl | h
    · exact Json.depth_lt_of_mem_values (by simp)
    · obtain rfl := Option.mem_toList.1 h
      exact Json.depth_lt_of_mem_values (by simp [optionToJson])
  | functionCall callee arguments =>
    rcases List.mem_cons.1 h with rfl | h
    · exact Json.depth_lt_of_mem_values (by simp)
    · have hitem : c.toJson ∈ listToJson arguments := by
        rw [listToJson_eq_map]
        exact List.mem_map_of_mem h
      exact Json.depth_lt_of_mem_list hitem (by simp)
  | callOptions callee names values =>
    rcases List.mem_cons.1 h with rfl | h
    · exact Json.depth_lt_of_mem_values (by simp)
    · have hitem : c.toJson ∈ listToJson values := by
        rw [listToJson_eq_map]
        exact List.mem_map_of_mem h
      exact Json.depth_lt_of_mem_list hitem (by simp)
  | binaryOperation operator left right =>
    simp only [children, List.mem_cons, List.not_mem_nil, or_false] at h
    rcases h with rfl | rfl <;> exact Json.depth_lt_of_mem_values (by simp)
  | unaryOperation operator operand =>
    obtain rfl := List.mem_singleton.1 h
    exact Json.depth_lt_of_mem_values (by simp)
  | conditional condition ifTrue ifFalse =>
    simp only [children, List.mem_cons, List.not_mem_nil, or_false] at h
    rcases h with rfl | rfl | rfl <;> exact Json.depth_lt_of_mem_values (by simp)
  | tuple components =>
    obtain ⟨slot, hslot, rfl⟩ := List.mem_filterMap.1 h
    have hitem : c.toJson ∈ slotsToJson components := by
      rw [slotsToJson_eq_map]
      exact List.mem_map.2 ⟨some c, hslot, rfl⟩
    exact Json.depth_lt_of_mem_list hitem (by simp)
  | identifier | literal | newExpression | elementaryTypeName | other =>
    exact absurd h (by simp [children])

theorem ofJsonWithin?_toJson {bound : Nat} (e : Expression) (h : e.toJson.depth ≤ bound) :
    ofJsonWithin? bound e.toJson = some e := by
  induction bound generalizing e with
  | zero =>
    have := e.toJson.depth_pos
    omega
  | succ bound ih =>
    rw [ofJsonWithin?, field_type_toJson]
    refine ofShape?_toJson e fun c hc => ih c ?_
    have := depth_toJson_lt hc
    omega

@[simp]
theorem ofJson?_toJson (e : Expression) : ofJson? e.toJson = some e :=
  ofJsonWithin?_toJson e (Nat.le_refl _)

@[simp]
theorem optional?_ofJson? (o : Option Expression) :
    (optionToJson o).optional? ofJson? = some o :=
  optional?_optionToJson fun e _ => e.ofJson?_toJson

@[simp]
theorem listOf?_ofJson? (es : List Expression) :
    (Json.arr (listToJson es)).listOf? ofJson? = some es :=
  listOf?_listToJson fun e _ => e.ofJson?_toJson

end Expression

/-! ## Statements -/

namespace Statement

theorem toJson_ne_null (s : Statement) : s.toJson ≠ .null := by
  cases s <;> simp [toJson, tagged]

@[simp]
theorem field_type_toJson (s : Statement) : s.toJson.field "type" = .str s.kindName := by
  cases s <;> simp [toJson, tagged, kindName]

@[simp]
theorem loc?_toJson (s : Statement) : s.toJson.loc? = some s.loc := by
  cases s <;> simp [toJson, tagged, Block.membersOf, OtherNode.members, Json.loc?, loc]

theorem optional?_optionToJson {read : Json → Option Statement} {o : Option Statement}
    (h : ∀ s ∈ o, read s.toJson = some s) : (optionToJson o).optional? read = some o := by
  cases o with
  | none => rfl
  | some s => exact Json.optional?_of_ne_null s.toJson_ne_null (h s rfl)

theorem listOf?_listToJson {read : Json → Option Statement} {ss : List Statement}
    (h : ∀ s ∈ ss, read s.toJson = some s) :
    (Json.arr (listToJson ss)).listOf? read = some ss := by
  rw [listToJson_eq_map]
  exact Json.listOf?_arr_map h

/-- **One level of a statement reads back** with any reader that reads back the statements directly
    below. -/
theorem ofShape?_toJson {read : Json → Option Statement} (s : Statement)
    (h : ∀ t, .statement t ∈ s.children → read t.toJson = some t) :
    ofShape? read s.kindName s.toJson = some s := by
  unfold ofShape?
  rw [loc?_toJson]
  cases s with
  | block statements isUnchecked =>
    have hstatements := listOf?_listToJson fun t (ht : t ∈ statements) =>
      h t (by simp [children, ht])
    simp [kindName, loc, toJson, tagged, Block.membersOf, hstatements]
  | ifElse condition ifTrue ifFalse =>
    have hifTrue := h ifTrue (by simp [children])
    have hifFalse := optional?_optionToJson fun t (ht : t ∈ ifFalse) =>
      h t (by simp_all [children])
    simp [kindName, loc, toJson, tagged, hifTrue, hifFalse]
  | forLoop init condition update body =>
    have hinit := optional?_optionToJson fun t (ht : t ∈ init) => h t (by simp_all [children])
    have hbody := optional?_optionToJson fun t (ht : t ∈ body) => h t (by simp_all [children])
    simp [kindName, loc, toJson, tagged, hinit, hbody]
  | whileLoop condition body =>
    have hbody := h body (by simp [children])
    simp [kindName, loc, toJson, tagged, hbody]
  | doWhile body condition =>
    have hbody := h body (by simp [children])
    simp [kindName, loc, toJson, tagged, hbody]
  | tryCatch e returns body catchBodies =>
    have hbody := optional?_optionToJson fun t (ht : t ∈ body) => h t (by simp_all [children])
    have hcatch := listOf?_listToJson fun t (ht : t ∈ catchBodies) => h t (by simp [children, ht])
    simp [kindName, loc, toJson, tagged, hbody, hcatch]
  | other node => simp [kindName, toJson]
  | expression | variableDeclaration | returnValue | emitEvent | revertWith =>
    simp [kindName, loc, toJson, tagged]

/-- The value of a statement is less deep than the value of the statement it lies in. -/
theorem depth_toJson_lt {s t : Statement} (h : .statement t ∈ s.children) :
    t.toJson.depth < s.toJson.depth := by
  cases s with
  | block statements isUnchecked =>
    have hitem : t.toJson ∈ listToJson statements := by
      rw [listToJson_eq_map]
      exact List.mem_map_of_mem (by simpa [children] using h)
    exact Json.depth_lt_of_mem_list hitem (by simp [Block.membersOf])
  | ifElse condition ifTrue ifFalse =>
    rcases (by simpa [children] using h : t = ifTrue ∨ ifFalse = some t) with rfl | rfl
    · exact Json.depth_lt_of_mem_values (by simp)
    · exact Json.depth_lt_of_mem_values (by simp [optionToJson])
  | forLoop init condition update body =>
    rcases (by simpa [children] using h : init = some t ∨ body = some t) with rfl | rfl <;>
      exact Json.depth_lt_of_mem_values (by simp [optionToJson])
  | whileLoop condition body =>
    obtain rfl : t = body := by simpa [children] using h
    exact Json.depth_lt_of_mem_values (by simp)
  | doWhile body condition =>
    obtain rfl : t = body := by simpa [children] using h
    exact Json.depth_lt_of_mem_values (by simp)
  | tryCatch e returns body catchBodies =>
    rcases (by simpa [children] using h : body = some t ∨ t ∈ catchBodies) with rfl | h
    · exact Json.depth_lt_of_mem_values (by simp [optionToJson])
    · have hitem : t.toJson ∈ listToJson catchBodies := by
        rw [listToJson_eq_map]
        exact List.mem_map_of_mem h
      exact Json.depth_lt_of_mem_list hitem (by simp)
  | expression | variableDeclaration | returnValue | emitEvent | revertWith | other =>
    exact absurd h (by simp [children])

theorem ofJsonWithin?_toJson {bound : Nat} (s : Statement) (h : s.toJson.depth ≤ bound) :
    ofJsonWithin? bound s.toJson = some s := by
  induction bound generalizing s with
  | zero =>
    have := s.toJson.depth_pos
    omega
  | succ bound ih =>
    rw [ofJsonWithin?, field_type_toJson]
    refine ofShape?_toJson s fun t ht => ih t ?_
    have := depth_toJson_lt ht
    omega

theorem ofJson?_toJson (s : Statement) : ofJson? s.toJson = some s :=
  ofJsonWithin?_toJson s (Nat.le_refl _)

end Statement

/-! ## Declarations -/

@[simp]
theorem Block.ofJson?_toJson (b : Block) : Block.ofJson? b.toJson = some b := by
  have hstatements := Statement.listOf?_listToJson fun s (_ : s ∈ b.statements) => s.ofJson?_toJson
  simp [Block.ofJson?, Block.toJson, Block.membersOf, Json.loc?, hstatements]

@[simp]
theorem Block.optional?_ofJson? (o : Option Block) :
    (optionToJson o).optional? Block.ofJson? = some o := by
  cases o with
  | none => rfl
  | some b =>
    exact Json.optional?_of_ne_null (by simp [optionToJson, toJson]) b.ofJson?_toJson

theorem InheritanceSpecifier.ofJson?_toJson (s : InheritanceSpecifier) :
    InheritanceSpecifier.ofJson? s.toJson = some s := by
  simp [InheritanceSpecifier.ofJson?, InheritanceSpecifier.toJson, Json.loc?]

/-- An error definition reads back under either of its tags. -/
@[simp]
theorem ErrorDefinition.ofJson?_tagged (shape : String) (d : ErrorDefinition) :
    ErrorDefinition.ofJson? (tagged shape d.members) = some d := by
  simp [ErrorDefinition.ofJson?, tagged, ErrorDefinition.members, Json.loc?]

theorem PragmaDirective.ofJson?_toJson (d : PragmaDirective) :
    PragmaDirective.ofJson? d.toJson = some d := by
  simp [PragmaDirective.ofJson?, PragmaDirective.toJson, tagged, Json.loc?]

theorem ImportDirective.ofJson?_toJson (d : ImportDirective) :
    ImportDirective.ofJson? d.toJson = some d := by
  simp [ImportDirective.ofJson?, ImportDirective.toJson, tagged, Json.loc?]

theorem StructDefinition.ofJson?_toJson (d : StructDefinition) :
    StructDefinition.ofJson? d.toJson = some d := by
  simp [StructDefinition.ofJson?, StructDefinition.toJson, tagged, Json.loc?]

theorem EnumDefinition.ofJson?_toJson (d : EnumDefinition) :
    EnumDefinition.ofJson? d.toJson = some d := by
  simp [EnumDefinition.ofJson?, EnumDefinition.toJson, tagged, Json.loc?]

theorem EventDefinition.ofJson?_toJson (d : EventDefinition) :
    EventDefinition.ofJson? d.toJson = some d := by
  simp [EventDefinition.ofJson?, EventDefinition.toJson, tagged, Json.loc?]

theorem StateVariableDeclaration.ofJson?_toJson (d : StateVariableDeclaration) :
    StateVariableDeclaration.ofJson? d.toJson = some d := by
  simp [StateVariableDeclaration.ofJson?, StateVariableDeclaration.toJson, tagged, Json.loc?]

theorem ModifierDefinition.ofJson?_toJson (d : ModifierDefinition) :
    ModifierDefinition.ofJson? d.toJson = some d := by
  simp [ModifierDefinition.ofJson?, ModifierDefinition.toJson, tagged, Json.loc?]

theorem FunctionDefinition.ofJson?_toJson (d : FunctionDefinition) :
    FunctionDefinition.ofJson? d.toJson = some d := by
  simp [FunctionDefinition.ofJson?, FunctionDefinition.toJson, tagged, Json.loc?]

/-! ## Members, items and the unit -/

/-- What the tag chooses is what the definition reads back as. -/
theorem bind_pure_of_eq_some {α β : Type} {o : Option α} {a : α} (wrap : α → β) (h : o = some a) :
    (do return wrap (← o)) = some (wrap a) := by
  rw [h]
  rfl

theorem Member.ofJson?_toJson (m : Member) : Member.ofJson? m.toJson = some m := by
  cases m with
  | struct d => exact bind_pure_of_eq_some struct d.ofJson?_toJson
  | enum d => exact bind_pure_of_eq_some enum d.ofJson?_toJson
  | stateVariable d => exact bind_pure_of_eq_some stateVariable d.ofJson?_toJson
  | event d => exact bind_pure_of_eq_some event d.ofJson?_toJson
  | error d => exact bind_pure_of_eq_some error (d.ofJson?_tagged "CustomErrorDefinition")
  | modifier d => exact bind_pure_of_eq_some modifier d.ofJson?_toJson
  | function d => exact bind_pure_of_eq_some function d.ofJson?_toJson
  | other n => exact bind_pure_of_eq_some other (n.ofJson?_tagged "Other")

theorem ContractDefinition.ofJson?_toJson (c : ContractDefinition) :
    ContractDefinition.ofJson? c.toJson = some c := by
  have hbases : (Json.arr (c.bases.map InheritanceSpecifier.toJson)).listOf?
      InheritanceSpecifier.ofJson? = some c.bases :=
    Json.listOf?_arr_map fun s _ => s.ofJson?_toJson
  have hmembers : (Json.arr (c.members.map Member.toJson)).listOf? Member.ofJson?
      = some c.members :=
    Json.listOf?_arr_map fun m _ => m.ofJson?_toJson
  simp [ContractDefinition.ofJson?, ContractDefinition.toJson, tagged, Json.loc?, hbases, hmembers]

theorem TopLevelItem.ofJson?_toJson (i : TopLevelItem) :
    TopLevelItem.ofJson? i.toJson = some i := by
  cases i with
  | pragma d => exact bind_pure_of_eq_some pragma d.ofJson?_toJson
  | importDirective d => exact bind_pure_of_eq_some importDirective d.ofJson?_toJson
  | contract d => exact bind_pure_of_eq_some contract d.ofJson?_toJson
  | event d => exact bind_pure_of_eq_some event d.ofJson?_toJson
  | error d => exact bind_pure_of_eq_some error (d.ofJson?_tagged "ErrorDefinition")
  | struct d => exact bind_pure_of_eq_some struct d.ofJson?_toJson
  | enum d => exact bind_pure_of_eq_some enum d.ofJson?_toJson
  | function d => exact bind_pure_of_eq_some function d.ofJson?_toJson
  | stateVariable d => exact bind_pure_of_eq_some stateVariable d.ofJson?_toJson
  | other n => exact bind_pure_of_eq_some other (n.ofJson?_tagged "Other")

theorem SourceUnit.ofJson?_toJson (u : SourceUnit) : SourceUnit.ofJson? u.toJson = some u := by
  have hitems : (Json.arr (u.items.map TopLevelItem.toJson)).listOf? TopLevelItem.ofJson?
      = some u.items :=
    Json.listOf?_arr_map fun i _ => i.ofJson?_toJson
  simp [SourceUnit.ofJson?, SourceUnit.toJson, Json.loc?, hitems]

/-- **The JSON form is faithful.** Reading the JSON form of a source unit gives the unit back,
    whatever it holds, so two different units never have the same JSON form. -/
theorem SourceUnit.toJson_faithful :
    (∀ u : SourceUnit, SourceUnit.ofJson? u.toJson = some u)
      ∧ Function.Injective SourceUnit.toJson := by
  refine ⟨SourceUnit.ofJson?_toJson, ?_⟩
  intro u v h
  have hread := SourceUnit.ofJson?_toJson u
  rw [h, SourceUnit.ofJson?_toJson v] at hread
  exact (Option.some.inj hread).symm

end Ast

end SolidityLint
