import SolidityLint.Ast
import SolidityLint.Context
import SolidityLint.Text.Search

set_option autoImplicit false

/-! # Naming conventions

Each kind of name has a case convention. The conventions know the ASCII letters, digits and the
underscore only, so a name with any other character breaks every one of them.

A leading underscore marks what is not public and is set aside before state variables, functions and
parameters are judged; one trailing underscore, which tells a name from a reserved word, is set
aside for all names. -/

namespace SolidityLint

open Ast

namespace Check

/-! ## Case conventions -/

/-- Is it a small letter? -/
def isLowerLetter (c : Char) : Bool :=
  'a' ≤ c && c ≤ 'z'

/-- Is it a capital letter? -/
def isUpperLetter (c : Char) : Bool :=
  'A' ≤ c && c ≤ 'Z'

/-- Is it a decimal digit? -/
def isDigit (c : Char) : Bool :=
  '0' ≤ c && c ≤ '9'

/-- Is it a letter or a digit? -/
def isLetterOrDigit (c : Char) : Bool :=
  isLowerLetter c || isUpperLetter c || isDigit c

/-- The conventions. -/
inductive CaseStyle where
  /-- `likeThis` -/
  | mixedCase
  /-- `LikeThis` -/
  | capWord
  /-- `LIKE_THIS` -/
  | upperCase
deriving Repr, DecidableEq, Inhabited

namespace CaseStyle

/-- What findings call a convention. -/
def label : CaseStyle → String
  | mixedCase => "mixedCase"
  | capWord => "capWord"
  | upperCase => "upperCase"

/-- May a name in this style start with `c`? -/
def admitsFirst : CaseStyle → Char → Bool
  | mixedCase, c => isLowerLetter c
  | capWord, c => isUpperLetter c
  | upperCase, c => isUpperLetter c || c == '_'

/-- May `c` stand after the first character of a name in this style? -/
def admitsLater : CaseStyle → Char → Bool
  | mixedCase, c => isLetterOrDigit c
  | capWord, c => isLetterOrDigit c
  | upperCase, c => isUpperLetter c || isDigit c || c == '_'

/-- Is `name` written in this style? -/
def admits (style : CaseStyle) (name : String) : Bool :=
  match name.toList with
  | [] => false
  | c :: rest => style.admitsFirst c && rest.all style.admitsLater

end CaseStyle

/-- A name without the underscore that marks what is not public. -/
def withoutUnderscore (name : String) : String :=
  Text.dropFirst '_' name

/-- The text for a name of one character. -/
def shortNameMessage (kind name : String) : String :=
  "choose a more meaningful name for " ++ kind ++ " \"" ++ name ++ "\""

/-- The text for a name that is not in the expected style. -/
def nameCaseMessage (kind name : String) (style : CaseStyle) : String :=
  kind ++ " name \"" ++ name ++ "\" should be " ++ style.label ++ "!"

end Check

namespace Context

open Check

/-! ## The check of one name -/

/-- A name of one character is noted. -/
def checkNameLength (c : Context) (kind name : String) (loc : Location) : Context :=
  if name.length < 2 then c.report .shortName (shortNameMessage kind name) loc else c

/-- A name has to be in the expected style. -/
def checkNameCase (c : Context) (kind name : String) (style : CaseStyle)
    (reference : Option String) (loc : Location) : Context :=
  if style.admits name then c
  else c.report { Rule.nameCase with reference } (nameCaseMessage kind name style) loc

/-- Judges a name of a kind of thing: an empty one cannot be judged, one of a single character is
    noted, and the name less one trailing underscore has to be in the expected style. -/
def checkName (c : Context) (kind name : String) (style : CaseStyle) (reference : Option String)
    (loc : Location) : Context :=
  if name.isEmpty then c.skipped .nameCase loc
  else
    (c.checkNameLength kind name loc).checkNameCase kind (Text.dropLast '_' name) style reference
      loc

/-! ## Names by kind -/

/-- The name of a state variable. Of a constant the underscore counts as part of the name. -/
def checkStateVariableName (c : Context) (v : VariableDeclaration) : Context :=
  match v.name with
  | none => c.skipped .nameCase v.loc
  | some n =>
      if v.isConstant then c.checkName "constant variable" n .upperCase none v.loc
      else
        c.checkName "state variable" (withoutUnderscore n) .mixedCase
          NamingPage.stateVariable.reference v.loc

/-- Locals have no underscore of their own to set aside; one without a name is passed over. -/
def checkLocalVariableName (c : Context) (v : VariableDeclaration) : Context :=
  match v.name with
  | none => c
  | some n =>
      if v.isConstant then c.checkName "constant variable" n .upperCase none v.loc
      else c.checkName "variable" n .mixedCase NamingPage.localVariable.reference v.loc

/-- The names in a declaration statement, whose empty slots are passed over. -/
def checkLocalVariableNames (c : Context) (declared : List (Option VariableDeclaration)) :
    Context :=
  (declared.filterMap id).foldl checkLocalVariableName c

/-- The name of a regular function. -/
def checkFunctionName (c : Context) (f : FunctionDefinition) : Context :=
  if f.kind = .function then
    c.checkName "function" (withoutUnderscore (f.name.getD "")) .mixedCase
      NamingPage.function.reference f.loc
  else c

/-- A parameter without a name is passed over. -/
def checkParameterName (c : Context) (v : VariableDeclaration) : Context :=
  match v.name with
  | none => c
  | some n =>
      c.checkName "function parameter" (withoutUnderscore n) .mixedCase
        NamingPage.functionParameter.reference v.loc

/-- The names of parameters, one after the other. -/
def checkParameterNames (c : Context) (parameters : List VariableDeclaration) : Context :=
  parameters.foldl checkParameterName c

/-- The name of a contract, which findings call by its kind. -/
def checkContractName (c : Context) (d : ContractDefinition) : Context :=
  c.checkName d.kind.label d.name .capWord NamingPage.contract.reference d.loc

/-- The name of a struct. -/
def checkStructName (c : Context) (d : StructDefinition) : Context :=
  c.checkName "struct" d.name .capWord NamingPage.struct.reference d.loc

/-- The name of an event. -/
def checkEventName (c : Context) (d : EventDefinition) : Context :=
  c.checkName "event" d.name .capWord NamingPage.event.reference d.loc

/-- The name of an enum. -/
def checkEnumName (c : Context) (d : EnumDefinition) : Context :=
  c.checkName "enum" d.name .capWord NamingPage.enum.reference d.loc

/-- The name of a modifier. -/
def checkModifierName (c : Context) (d : ModifierDefinition) : Context :=
  c.checkName "modifier" d.name .mixedCase NamingPage.modifier.reference d.loc

end Context

end SolidityLint
