import SolidityLint.CommandLine

set_option autoImplicit false

/-! # The program

The command line on the files of the machine: what the arguments can reach is read into a file tree,
the program runs on that, and what it wrote is written out. Nothing is decided here. -/

namespace SolidityLint

/-- The path of a file from the root. -/
def absolutePath (names : List String) : String :=
  "/" ++ String.intercalate "/" names

/-- The entry of a file, which the operations on directories start from. -/
def entryOf (names : List String) : IO.FS.DirEntry :=
  ⟨absolutePath names, ""⟩

/-- Adds what is at a place to a tree, without what is below it. -/
def loadPlace (t : FileTree) (names : List String) : IO FileTree := do
  let place := (entryOf names).root
  if ← place.isDir then return { t with directories := t.directories ++ [names] }
  else if ← place.pathExists then return t.put names (← IO.FS.readBinFile place)
  else return t

/-- Adds what is at a place and below it. -/
partial def loadBelow (t : FileTree) (names : List String) : IO FileTree := do
  let mut tree ← loadPlace t names
  if tree.isFile names then return tree
  for entry in ← (entryOf names).root.readDir do
    tree ← loadBelow tree (names ++ [entry.fileName])
  return tree

/-- The places that a path passes through, from the first on. -/
def placesOf (place : List String) : List String → List (List String)
  | [] => [place]
  | segment :: rest =>
      if Path.isIdle segment then placesOf place rest
      else
        let next := if segment = ".." then place.dropLast else place ++ [segment]
        next :: placesOf next rest

/-- The part of the machine's files that a run over a path can see. -/
def loadTree (path : String) : IO FileTree := do
  let workingDirectory :=
    (Path.segments (← IO.currentDir).toString).filter fun s => !Path.isIdle s
  let start := if Text.startsWith '/' path then [] else workingDirectory
  let mut tree : FileTree := ⟨[], [], workingDirectory⟩
  for place in placesOf start (Path.segments path) do
    tree ← loadPlace tree place
  match tree.resolve path with
  | .error _ => return tree
  | .ok names =>
      if tree.isDirectory names then loadBelow tree names
      else match tree.resolve (Path.dumpPath path) with
        | .ok target => loadPlace tree target
        | .error _ => return tree

/-- Writes out the files that differ from what they were. -/
def storeChanges (before after : FileTree) : IO Unit := do
  for (names, content) in after.files do
    if before.files.lookup names != some content then
      IO.FS.writeBinFile (entryOf names).root content

end SolidityLint

open SolidityLint in
/-- Loads what the path leads to, runs the program on it and writes out what it wrote. -/
def main (arguments : List String) : IO UInt32 := do
  let stdout ← IO.getStdout
  let stderr ← IO.getStderr
  let path := (Invocation.ofArguments? arguments).bind Invocation.path
  let before ← match path with
    | some path => loadTree path
    | none => pure ⟨[], [], []⟩
  let (after, outcome) := runProgram (← stdout.isTty) before arguments
  storeChanges before after
  stdout.putStr outcome.output
  match outcome with
  | .success _ => pure ()
  | .failure e => stderr.putStr e.explanation
  | .misuse => stderr.putStr "usage: solcheck [options] <path>\n"
  return outcome.exitCode.toUInt32
