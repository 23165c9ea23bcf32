import SolidityLint.Ast
import SolidityLint.Context
import SolidityLint.Text.Search

set_option autoImplicit false

/-! # Visibility and the leading underscore

State variables and functions should say who may use them, and a leading underscore should mark what
is not public: state variables that are not public, functions that are private or internal. At file
level no visibility can be written, so constants and functions there are exempt from both. -/

namespace SolidityLint

open Ast

namespace Check

/-! ## What the findings say -/

/-- The text for a state variable that does not say who may use it. -/
def variableVisibilityMessage (v : VariableDeclaration) : String :=
  "specify state variable visibility for \"" ++ v.name.getD "" ++ "\""

/-- The text for a function that does not say who may use it. -/
def functionVisibilityMessage (f : FunctionDefinition) : String :=
  "specify function visibility for \"" ++ f.displayName ++ "\""

/-- The text for a thing that is not public and lacks the mark. -/
def missingUnderscoreMessage (kind name : String) : String :=
  "use an underscore prefix for private/internal " ++ kind ++ " \"" ++ name ++ "\""

/-- The text for a thing that others may use and that has the mark. -/
def strayUnderscoreMessage (kind name : String) : String :=
  "do not use an underscore prefix for " ++ kind ++ " \"" ++ name ++ "\""

end Check

namespace Context

open Check

/-! ## Visibility -/

/-- A state variable says who may use it. -/
def checkStateVariableVisibility (c : Context) (d : StateVariableDeclaration) : Context :=
  d.declared.foldl
    (fun c v =>
      if v.isStateVariable && v.visibility = .unspecified then
        c.report .stateVariableVisibility (variableVisibilityMessage v) v.loc
      else c) c

/-- A function says who may use it, unless it is a constructor or free. -/
def checkFunctionVisibility (c : Context) (f : FunctionDefinition) : Context :=
  if f.visibility = .unspecified && !f.isConstructor && !f.isFree then
    c.report .functionVisibility (functionVisibilityMessage f) f.loc
  else c

/-! ## The leading underscore -/

/-- A state variable has the mark iff it is not public. -/
def checkStateVariableUnderscore (c : Context) (v : VariableDeclaration) : Context :=
  match v.name with
  | none => c
  | some name =>
      if !v.isStateVariable then c
      else
        let isPublic := v.visibility = .pub
        let marked := Text.startsWith '_' name
        if !isPublic && !marked then
          c.report .stateVariableUnderscore (missingUnderscoreMessage "state variable" name) v.loc
        else if isPublic && marked then
          c.report .stateVariableUnderscore (strayUnderscoreMessage "public state variable" name)
            v.loc
        else c

/-- A function has the mark iff it is private or internal. -/
def checkFunctionUnderscore (c : Context) (f : FunctionDefinition) : Context :=
  match f.name with
  | none => c
  | some name =>
      if f.isFree then c
      else
        let isHidden := f.visibility = .priv || f.visibility = .internal
        let marked := Text.startsWith '_' name
        if isHidden && !marked then
          c.report .functionUnderscore (missingUnderscoreMessage "function" name) f.loc
        else if !isHidden && marked then
          c.report .functionUnderscore (strayUnderscoreMessage "public/external function" name)
            f.loc
        else c

end Context

end SolidityLint
