import SolidityLint.Path

set_option autoImplicit false

/-! # File trees

The files that a run can see. A file or directory is known by the names that lead to it from the
root. A directory is there if it is listed, or if anything is below it. Paths are texts, read as a
file system reads them: from the working directory unless they start with a slash, each step only
out of a directory that exists. -/

namespace SolidityLint

/-- Why a file could not be read or written. -/
inductive FileError where
  | notFound
  | notADirectory
  | isADirectory
  | notUtf8
deriving Repr, DecidableEq, Inhabited

/-- The text of a failure, as a system gives it. -/
def FileError.message : FileError → String
  | notFound => "No such file or directory (os error 2)"
  | notADirectory => "Not a directory (os error 20)"
  | isADirectory => "Is a directory (os error 21)"
  | notUtf8 => "stream did not contain valid UTF-8"

/-- Files with their contents, empty directories, and the directory that paths start from. -/
structure FileTree where
  files : List (List String × ByteArray)
  directories : List (List String)
  workingDirectory : List String
deriving Inhabited

namespace FileTree

/-! ## Entries -/

/-- Is there a file of these names? -/
def isFile (t : FileTree) (names : List String) : Bool :=
  t.files.any fun f => f.1 == names

/-- The root, the working directory, what is listed, and what has something below it. -/
def isDirectory (t : FileTree) (names : List String) : Bool :=
  names.isEmpty || names.isPrefixOf t.workingDirectory
    || t.directories.any (fun d => names.isPrefixOf d)
    || t.files.any fun f => names.isPrefixOf f.1 && f.1 != names

/-- Gives a file its content, in place of what it had. -/
def put (t : FileTree) (names : List String) (content : ByteArray) : FileTree :=
  if t.isFile names then
    { t with files := t.files.map fun f => if f.1 == names then (names, content) else f }
  else { t with files := t.files ++ [(names, content)] }

/-! ## Resolving paths -/

/-- Follows segments from a place in the tree. -/
def follow (t : FileTree) (place : List String) : List String → Except FileError (List String)
  | [] => .ok place
  | segment :: rest =>
      if !t.isDirectory place then
        .error (if t.isFile place then .notADirectory else .notFound)
      else if Path.isIdle segment then t.follow place rest
      else if segment = ".." then t.follow place.dropLast rest
      else t.follow (place ++ [segment]) rest

/-- The names that a path leads to; nothing need be there. -/
def resolve (t : FileTree) (path : String) : Except FileError (List String) :=
  if path = "" then .error .notFound
  else if Text.startsWith '/' path then t.follow [] (Path.segments path)
  else t.follow t.workingDirectory (Path.segments path)

/-- Does the path lead to a directory? -/
def leadsToDirectory (t : FileTree) (path : String) : Bool :=
  match t.resolve path with
  | .ok names => t.isDirectory names
  | .error _ => false

/-! ## Reading and writing -/

/-- The text of a file. -/
def readText (t : FileTree) (path : String) : Except FileError String := do
  let names ← t.resolve path
  match t.files.lookup names with
  | some content =>
      match String.fromUTF8? content with
      | some text => .ok text
      | none => .error .notUtf8
  | none => .error (if t.isDirectory names then .isADirectory else .notFound)

/-- Writes a file into a directory that exists. -/
def writeText (t : FileTree) (path text : String) : Except FileError FileTree := do
  let names ← t.resolve path
  if t.isDirectory names then .error .isADirectory
  else .ok (t.put names text.toUTF8)

/-! ## Listing -/

/-- Is the file of these names a Solidity source? -/
def isSource (names : List String) : Bool :=
  match names.getLast? with
  | some name => Path.extension? name = some "sol"
  | none => false

/-- Does one list of names come before another, or equal it? Names are compared one by one. -/
def namesLe (a b : List String) : Bool :=
  match a, b with
  | [], _ => true
  | _ :: _, [] => false
  | x :: xs, y :: ys => if x = y then namesLe xs ys else x < y

/-- The names below a directory that lead to its sources, in order. -/
def sourcesBelow (t : FileTree) (directory : List String) : List (List String) :=
  let below := t.files.filterMap fun f =>
    if directory.isPrefixOf f.1 && f.1 != directory && isSource f.1 then
      some (f.1.drop directory.length)
    else none
  below.mergeSort namesLe

/-- The paths of the sources below a directory, in order. -/
def collect (t : FileTree) (path : String) : List String :=
  match t.resolve path with
  | .ok directory => (t.sourcesBelow directory).map fun names => names.foldl Path.join path
  | .error _ => []

end FileTree

end SolidityLint
