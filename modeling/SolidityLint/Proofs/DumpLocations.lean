import Mathlib.Data.List.Basic
import SolidityLint.Ast.Decode
import SolidityLint.Ast.Encode
import SolidityLint.Proofs.Walk

set_option autoImplicit false

/-! # The walk and the JSON form hold the same locations

The JSON form of a tree is written by one function for each type, the walk lists the parts below a
node by hand. Neither mentions the other; this file shows that they agree on what the tree holds.
The `loc` members of the objects in the JSON form, read in the order in which the objects open, are
the locations of the nodes in the order of the walk. The only objects without a node are type names,
which stand as members `type_name`. A location can be read back from its JSON form, so the
locations themselves are compared and not only how they are written.

Since a tree may carry any locations, distinct ones too, this says that every part of the tree is
visited once, before what is below it and in the order of the fields.

The step lemma is `Node.locations_toJson`: the object of a node gives the location of the node and
then the locations in the objects of its children. -/

namespace SolidityLint

open Ast

/-! ## Locations in a JSON value -/

namespace Json

mutual

/-- The `loc` members of the objects at and below a value, in the order in which the objects open.
    An object that is the value of a member `type_name` is left out, what lies in it is not. -/
def locations : Json → List Json
  | obj members => (members.lookup "loc").toList ++ locationsInMembers members
  | arr items => locationsInItems items
  | _ => []

/-- The same without the object that the value itself may be. -/
def locationsBelow : Json → List Json
  | obj members => locationsInMembers members
  | arr items => locationsInItems items
  | _ => []

/-- The locations at and below the items of a list. -/
def locationsInItems : List Json → List Json
  | [] => []
  | item :: rest => item.locations ++ locationsInItems rest

/-- The locations at and below the values of some members. -/
def locationsInMembers : List (String × Json) → List Json
  | [] => []
  | (key, value) :: rest =>
      (if key = "type_name" then value.locationsBelow else value.locations)
        ++ locationsInMembers rest

end

theorem locationsInItems_eq_flatMap (items : List Json) :
    locationsInItems items = items.flatMap locations := by
  induction items with
  | nil => rfl
  | cons item rest ih => rw [locationsInItems, ih, List.flatMap_cons]

@[simp]
theorem locations_arr (items : List Json) : (arr items).locations = items.flatMap locations := by
  rw [locations, locationsInItems_eq_flatMap]

@[simp]
theorem locations_null : null.locations = [] := rfl

@[simp]
theorem locations_str (s : String) : (str s).locations = [] := rfl

@[simp]
theorem locations_bool (b : Bool) : (bool b).locations = [] := rfl

@[simp]
theorem locations_ofOptionalText (o : Option String) : (ofOptionalText o).locations = [] := by
  cases o <;> rfl

@[simp]
theorem locations_ofTexts (texts : List String) : (ofTexts texts).locations = [] := by
  simp [ofTexts, List.flatMap_map]

/-- An object gives its own location first, then those in its members. -/
theorem locations_obj (members : List (String × Json)) :
    (obj members).locations = (members.lookup "loc").toList ++ locationsInMembers members := by
  rw [locations]

/-! ### One location read back -/

@[simp]
theorem field_obj_cons (key name : String) (value : Json) (members : List (String × Json)) :
    (obj ((name, value) :: members)).field key
      = if key = name then value else (obj members).field key := by
  by_cases h : key = name
  · simp [field, h]
  · simp [field, List.lookup_cons, h, beq_eq_false_iff_ne.2 h]

@[simp]
theorem num?_num (n : Nat) : (num n).num? = some n := rfl

end Json

@[simp]
theorem Position.ofJson?_toJson (p : Position) : Position.ofJson? p.toJson = some p := by
  simp [Position.ofJson?, Position.toJson]

@[simp]
theorem Location.ofJson?_toJson (l : Location) : Location.ofJson? l.toJson = some l := by
  simp [Location.ofJson?, Location.toJson]

@[simp]
theorem Location.locations_toJson (l : Location) : l.toJson.locations = [] := by
  simp [Location.toJson, Position.toJson, Json.locations, Json.locationsInMembers, List.lookup_cons]

namespace Ast

/-! ## Leaves and lists -/

/-- The type tag carries no location. -/
@[simp]
theorem locations_tagged (shape : String) (members : List (String × Json)) :
    (tagged shape members).locations
      = (members.lookup "loc").toList ++ Json.locationsInMembers members := by
  simp [tagged, Json.locations_obj, Json.locationsInMembers, List.lookup_cons]

@[simp]
theorem TypeName.locationsBelow_toJson (t : TypeName) : t.toJson.locationsBelow = [] := by
  simp [TypeName.toJson, TypeName.members, Json.locationsBelow, Json.locationsInMembers]

@[simp]
theorem VariableDeclaration.locations_toJson (v : VariableDeclaration) :
    v.toJson.locations = [v.loc.toJson] := by
  simp [VariableDeclaration.toJson, Json.locations_obj, Json.locationsInMembers, List.lookup_cons]

@[simp]
theorem VariableDeclaration.locations_slotToJson (slot : Option VariableDeclaration) :
    (VariableDeclaration.slotToJson slot).locations
      = slot.toList.flatMap fun v => [v.loc.toJson] := by
  cases slot <;> simp [VariableDeclaration.slotToJson]

@[simp]
theorem locations_declarationsToJson (declared : List VariableDeclaration) :
    (declarationsToJson declared).locations = declared.flatMap fun v => [v.loc.toJson] := by
  simp [declarationsToJson, List.flatMap_map]

theorem Expression.listToJson_eq_map (es : List Expression) :
    Expression.listToJson es = es.map Expression.toJson := by
  induction es with
  | nil => rfl
  | cons e rest ih => rw [Expression.listToJson, ih, List.map_cons]

theorem Expression.slotsToJson_eq_map (slots : List (Option Expression)) :
    Expression.slotsToJson slots = slots.map Expression.optionToJson := by
  induction slots with
  | nil => rfl
  | cons slot rest ih => rw [Expression.slotsToJson, ih, List.map_cons]

theorem Statement.listToJson_eq_map (ss : List Statement) :
    Statement.listToJson ss = ss.map Statement.toJson := by
  induction ss with
  | nil => rfl
  | cons s rest ih => rw [Statement.listToJson, ih, List.map_cons]

@[simp]
theorem Expression.locations_optionToJson (o : Option Expression) :
    (Expression.optionToJson o).locations = o.toList.flatMap fun e => e.toJson.locations := by
  cases o <;> simp [Expression.optionToJson]

@[simp]
theorem Statement.locations_optionToJson (o : Option Statement) :
    (Statement.optionToJson o).locations = o.toList.flatMap fun s => s.toJson.locations := by
  cases o <;> simp [Statement.optionToJson]

/-- Empty slots add nothing. -/
theorem flatMap_slots {α β : Type} (f : α → List β) (slots : List (Option α)) :
    (slots.flatMap fun slot => slot.toList.flatMap f) = (slots.filterMap id).flatMap f := by
  rw [List.filterMap_eq_flatMap_toList, List.flatMap_assoc]
  rfl

/-! ## One node -/

/-- The JSON form of a part of the tree. An error definition is tagged as at the top level. -/
def Node.toJson : Node → Json
  | sourceUnit u => u.toJson
  | pragma d => d.toJson
  | importDirective d => d.toJson
  | contract d => d.toJson
  | inheritance s => s.toJson
  | struct d => d.toJson
  | enum d => d.toJson
  | event d => d.toJson
  | error d => tagged "ErrorDefinition" d.members
  | modifier d => d.toJson
  | function d => d.toJson
  | stateVariable d => d.toJson
  | declaration v => v.toJson
  | body b => b.toJson
  | statement s => s.toJson
  | expression e => e.toJson
  | other n => tagged "Other" n.members

/-- Inside a contract an error definition has another tag, which carries no location either. -/
@[simp]
theorem Member.locations_toJson (m : Member) : m.toJson.locations = m.toNode.toJson.locations := by
  cases m with
  | error d => simp only [Member.toJson, Member.toNode, Node.toJson, locations_tagged]
  | _ => rfl

theorem TopLevelItem.toJson_eq (i : TopLevelItem) : i.toJson = i.toNode.toJson := by
  cases i <;> rfl

section Step

-- An object is read member by member, a list of parts part by part.
attribute [local simp] Json.locations_obj Json.locationsInMembers List.lookup_cons List.flatMap_map
  Expression.listToJson_eq_map Expression.slotsToJson_eq_map Statement.listToJson_eq_map
  flatMap_slots

theorem Expression.locations_toJson (e : Expression) :
    e.toJson.locations = e.loc.toJson :: e.children.flatMap fun c => c.toJson.locations := by
  cases e with
  | elementaryTypeName t =>
    simp [Expression.toJson, Expression.loc, Expression.children, TypeName.members]
  | other n => simp [Expression.toJson, Expression.loc, Expression.children, OtherNode.members]
  | _ => simp [Expression.toJson, Expression.loc, Expression.children]

theorem Statement.locations_toJson (s : Statement) :
    s.toJson.locations = s.loc.toJson :: s.children.flatMap fun c => c.toJson.locations := by
  cases s with
  | block statements isUnchecked loc =>
    simp [Statement.toJson, Statement.loc, Statement.children, Block.membersOf, Node.toJson]
  | other n => simp [Statement.toJson, Statement.loc, Statement.children, OtherNode.members]
  | _ => simp [Statement.toJson, Statement.loc, Statement.children, Node.toJson]

@[simp]
theorem Block.locations_toJson (b : Block) :
    b.toJson.locations = b.loc.toJson :: b.statements.flatMap fun s => s.toJson.locations := by
  simp [Block.toJson, Block.membersOf]

@[simp]
theorem Block.locations_optionToJson (o : Option Block) :
    (Block.optionToJson o).locations = o.toList.flatMap fun b => b.toJson.locations := by
  cases o <;> simp [Block.optionToJson]

/-- **One step of the walk in the JSON form**: the location of the node, then those of what is below
    it, child by child. -/
theorem Node.locations_toJson (n : Node) :
    n.toJson.locations = n.loc.toJson :: n.children.flatMap fun c => c.toJson.locations := by
  cases n with
  | sourceUnit u =>
    simp [Node.toJson, Node.loc, Node.children, SourceUnit.toJson, TopLevelItem.toJson_eq]
  | pragma d => simp [Node.toJson, Node.loc, Node.children, PragmaDirective.toJson]
  | importDirective d => simp [Node.toJson, Node.loc, Node.children, ImportDirective.toJson]
  | contract d => simp [Node.toJson, Node.loc, Node.children, ContractDefinition.toJson]
  | inheritance s => simp [Node.toJson, Node.loc, Node.children, InheritanceSpecifier.toJson]
  | struct d => simp [Node.toJson, Node.loc, Node.children, StructDefinition.toJson]
  | enum d => simp [Node.toJson, Node.loc, Node.children, EnumDefinition.toJson]
  | event d => simp [Node.toJson, Node.loc, Node.children, EventDefinition.toJson]
  | error d => simp [Node.toJson, Node.loc, Node.children, ErrorDefinition.members]
  | modifier d => simp [Node.toJson, Node.loc, Node.children, ModifierDefinition.toJson]
  | function d => simp [Node.toJson, Node.loc, Node.children, FunctionDefinition.toJson]
  | stateVariable d => simp [Node.toJson, Node.loc, Node.children, StateVariableDeclaration.toJson]
  | declaration v => simp [Node.toJson, Node.loc, Node.children]
  | body b => simp [Node.toJson, Node.loc, Node.children]
  | statement s => exact s.locations_toJson
  | expression e => simp [Node.toJson, Node.loc, Node.children, e.locations_toJson]
  | other n => simp [Node.toJson, Node.loc, Node.children, OtherNode.members]

end Step

/-! ## The whole walk -/

theorem Node.locations_walk (n : Node) :
    n.walk.map (fun m => m.loc.toJson) = n.toJson.locations := by
  induction n using Node.childInduction with
  | step n ih =>
    rw [Node.walk_eq, Node.locations_toJson, List.map_cons, List.map_flatMap]
    congr 1
    exact List.flatMap_congr ih

/-- **The walk visits what the JSON form holds.** The `loc` members of the objects in the JSON form
    of a source unit, in the order in which the objects open and without the type names that stand
    as members `type_name`, are the locations along the walk: as they are written, and as they are
    read back. -/
theorem SourceUnit.walk_locations_eq_json (unit : SourceUnit) :
    (Node.sourceUnit unit).walk.map (fun n => n.loc.toJson) = unit.toJson.locations
      ∧ unit.toJson.locations.map Location.ofJson?
        = (Node.sourceUnit unit).walk.map fun n => some n.loc := by
  have hwritten : (Node.sourceUnit unit).walk.map (fun n => n.loc.toJson)
      = unit.toJson.locations := Node.locations_walk (.sourceUnit unit)
  refine ⟨hwritten, ?_⟩
  rw [← hwritten, List.map_map]
  exact List.map_congr_left fun n _ => Location.ofJson?_toJson n.loc

end Ast

end SolidityLint
