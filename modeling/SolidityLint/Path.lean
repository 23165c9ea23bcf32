import SolidityLint.Text.Search

set_option autoImplicit false

/-! # Paths

A path is a text whose segments are separated by slashes. Empty segments and segments `.` stand for
nothing, except that a path which starts with a slash starts at the root, and a `.` at the very
start of a path counts. What is left are the components; two texts with the same components are the
same path.

Operations on a path keep the text of what they do not touch: the parent of `a//b/c` is `a//b`. -/

namespace SolidityLint.Path

/-! ## Segments and components -/

/-- What stands between the slashes of a path, empty pieces included. -/
def segments (path : String) : List String :=
  (Text.pieces '/' path.toList).map String.ofList

/-- What a path leads through. -/
inductive Component where
  | root
  /-- A leading `.` -/
  | current
  | parent
  | name (text : String)
deriving Repr, DecidableEq, Inhabited

/-- Does a segment after the first stand for nothing? -/
def isIdle (segment : String) : Bool :=
  segment = "" || segment = "."

/-- The component of a segment that stands for something. -/
def Component.ofSegment (segment : String) : Component :=
  if segment = ".." then .parent else .name segment

/-- The component of the first segment of a path. An empty one is the root, if more follow. -/
def Component.ofFirst? (segment : String) (isOnly : Bool) : Option Component :=
  if segment = "" then (if isOnly then none else some .root)
  else if segment = "." then some .current
  else some (.ofSegment segment)

/-- The components of a path, without the segments that count for nothing. -/
def components (path : String) : List Component :=
  match segments path with
  | [] => []
  | first :: later =>
      (Component.ofFirst? first later.isEmpty).toList
        ++ (later.filter fun s => !isIdle s).map .ofSegment

/-! ## Names, stems and extensions -/

/-- The segments of a path up to the last that stands for something; the first is always kept. -/
def trimmed : List String → List String
  | [] => []
  | first :: later => first :: (later.reverse.dropWhile isIdle).reverse

/-- The last component of a path, if it is a name. -/
def fileName? (path : String) : Option String :=
  match (trimmed (segments path)).getLast? with
  | some s => if isIdle s || s = ".." then none else some s
  | none => none

/-- The text of a list of trimmed segments. -/
def textOf (trimmed : List String) : String :=
  if trimmed = [""] then "/" else String.intercalate "/" trimmed

/-- A path without its last component, which is a name. -/
def parent (path : String) : String :=
  match (trimmed (segments path)).dropLast with
  | [] => ""
  | rest => textOf (trimmed rest)

/-- A name cut at its last full stop: the part before it, and the part after it. A name has no
    extension if it has no full stop, or only one at its start. -/
def splitName (name : String) : String × Option String :=
  let extension := (name.toList.reverse.takeWhile (· != '.')).reverse
  let stem := name.toList.take (name.toList.length - extension.length - 1)
  if extension.length = name.toList.length || stem.isEmpty then (name, none)
  else (String.ofList stem, some (String.ofList extension))

/-- A file name up to its extension. -/
def stem (name : String) : String :=
  (splitName name).1

/-- The extension of a file name, if it has one. -/
def extension? (name : String) : Option String :=
  (splitName name).2

/-! ## Building paths -/

/-- A name below a path. -/
def join (path name : String) : String :=
  if path = "" || path.toList.getLast? = some '/' then path ++ name else path ++ "/" ++ name

/-- Where the syntax tree of a file is written: next to it, under its stem with `AST.json` at the
    end. -/
def dumpPath (path : String) : String :=
  match fileName? path with
  | some name => join (parent path) (stem name ++ "AST.json")
  | none => join path "AST.json"

end SolidityLint.Path
