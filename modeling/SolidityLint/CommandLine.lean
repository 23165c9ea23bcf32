import SolidityLint.Analysis
import SolidityLint.Report.Text

set_option autoImplicit false

/-! # The command line

Arguments are read from left to right into an `Invocation`. An option may be given once; `--` ends
the options. Without `--list-rules` a path is needed. What the arguments ask for is then carried out
on a file tree, and yields an exit code and the text for each output stream. -/

namespace SolidityLint

/-! ## Arguments -/

/-- What can be asked for without a value. -/
inductive Flag where
  | listRules
  | writeTrees
  | json
  | legacyOperators
  | noSuppress
  | verbose
deriving Repr, DecidableEq, Inhabited

/-- The flag that an argument is. -/
def Flag.ofArgument? : String → Option Flag
  | "--list-rules" => some listRules
  | "--ast" => some writeTrees
  | "--json" => some json
  | "--legacy-operator-fallthrough" => some legacyOperators
  | "--no-suppress" => some noSuppress
  | "--verbose" => some verbose
  | "-v" => some verbose
  | _ => none

/-- What the arguments say. -/
structure Invocation where
  path : Option String
  flags : List Flag
  minSeverity : Option Severity
deriving Repr, DecidableEq, Inhabited

namespace Invocation

/-- An invocation without arguments. -/
def empty : Invocation := ⟨none, [], none⟩

/-- Adds a path. There is at most one, and it is not empty. -/
def withPath? (i : Invocation) (path : String) : Option Invocation :=
  if i.path.isSome || path.isEmpty then none else some { i with path := some path }

/-- Adds a flag that is not there yet. -/
def withFlag? (i : Invocation) (flag : Flag) : Option Invocation :=
  if i.flags.contains flag then none else some { i with flags := i.flags ++ [flag] }

/-- Sets the severity, which is not set yet. -/
def withSeverity? (i : Invocation) (word : String) : Option Invocation :=
  if i.minSeverity.isSome then none
  else (Severity.ofWord? word).map fun severity => { i with minSeverity := some severity }

/-- Is this argument an option, rather than a path or a value? A lone hyphen is a path. -/
def isOption (argument : String) : Bool :=
  Text.startsWith '-' argument && argument != "-"

/-- The text after a leading word, if the text starts with it. -/
def after? (word text : String) : Option String :=
  if word.toList.isPrefixOf text.toList then some (String.ofList (text.toList.drop word.length))
  else none

/-- Reads arguments into an invocation; none if they are misused. -/
def read? (i : Invocation) : List String → Option Invocation
  | [] => some i
  | "--" :: paths => paths.foldlM withPath? i
  | "--min-severity" :: value :: rest => do
      if isOption value then none else (← i.withSeverity? value).read? rest
  | argument :: rest =>
      if isOption argument then
        match Flag.ofArgument? argument, after? "--min-severity=" argument with
        | some flag, _ => do (← i.withFlag? flag).read? rest
        | none, some value => do (← i.withSeverity? value).read? rest
        | none, none => none
      else do (← i.withPath? argument).read? rest

/-- The invocation that arguments stand for; none if they are misused. -/
def ofArguments? (arguments : List String) : Option Invocation := do
  let i ← empty.read? arguments
  if i.path.isNone && !i.flags.contains .listRules then none else some i

/-- Was this flag given? -/
def has (i : Invocation) (flag : Flag) : Bool :=
  i.flags.contains flag

/-- The settings that an invocation asks for. -/
def settings (i : Invocation) : Settings where
  minSeverity := i.minSeverity.getD .info
  honourSuppressions := !i.has .noSuppress
  writeTrees := i.has .writeTrees
  options := ⟨i.has .legacyOperators⟩

end Invocation

/-! ## Outcomes -/

/-- What a run of the program yields. -/
inductive Outcome where
  | success (output : String)
  | failure (error : AnalysisError)
  | misuse
deriving Repr, DecidableEq, Inhabited

namespace Outcome

/-- The number that the program ends with. -/
def exitCode : Outcome → Nat
  | success _ => 0
  | failure _ => 1
  | misuse => 2

/-- What goes to the standard output. -/
def output : Outcome → String
  | success text => text
  | _ => ""

end Outcome

/-- What is written about a failure: its message, and the failure beneath it if there is one. -/
def AnalysisError.explanation (e : AnalysisError) : String :=
  "Error: " ++ e.message ++ (match e.cause? with
    | some cause => "\n\nCaused by:\n    " ++ cause.message
    | none => "") ++ "\n"

/-- Carries out what the arguments ask for. -/
def Invocation.carryOut (colours : Bool) (t : FileTree) (i : Invocation) : FileTree × Outcome :=
  if i.has .listRules then (t, .success (Rule.styledCatalogue.render colours))
  else match i.path with
    | none => (t, .misuse)
    | some path =>
        match i.settings.analyse t path with
        | (t, .error e) => (t, .failure e)
        | (t, .ok report) =>
            if i.has .json then (t, .success (report.jsonText ++ "\n"))
            else (t, .success (report.styled.render colours))

/-- Runs the program on its arguments. -/
def runProgram (colours : Bool) (t : FileTree) (arguments : List String) : FileTree × Outcome :=
  match Invocation.ofArguments? arguments with
  | some i => i.carryOut colours t
  | none => (t, .misuse)

end SolidityLint
