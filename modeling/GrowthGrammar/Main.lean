import GrowthGrammar.CommandLine.Program

/-!
# The program on real files

The pure program works on a tree of files.  Here the files that a request names
are read into such a tree, and the files that it changes are written back.
-/

namespace GrowthGrammar

open CommandLine

/-- How the program is called. -/
def usage : String :=
  "usage: lsystem [-h] [-v] \x7bderive,describe\x7d ...\n"
    ++ "       lsystem derive FILE -o OUTPUT [--width N] [--height N] [--format FORMAT]\n"

/-- The files of a request. -/
def filesOf : Command → List FilePath
  | .derive d => d.file :: d.output.toList ++ (d.formatGiven.bind d.target).toOption.toList
  | .describe => []

/-- What is found at a place. -/
inductive Found
  /-- A file. -/
  | file (bytes : List UInt8)
  /-- A directory. -/
  | directory
  /-- Nothing. -/
  | nothing

/-- Look at a place. -/
def lookAt (place : Place) : IO Found := do
  match ← (IO.FS.readBinFile place.text).toBaseIO with
  | .ok bytes => return .file bytes.toList
  | .error (.noFileOrDirectory ..) => return .nothing
  | .error _ => return .directory

/-- The tree with what is found at a place. -/
def addPlace (tree : FileTree) (place : Place) : IO FileTree := do
  match ← lookAt place with
  | .file bytes => return { tree with files := (place, bytes) :: tree.files }
  | .directory => return { tree with directories := place :: tree.directories }
  | .nothing => return tree

/-- The tree with what is found under a path, and with the directory that it is
in. -/
def addPath (tree : FileTree) (path : FilePath) : IO FileTree := do
  addPlace (← addPlace tree path.place.dropLast) path.place

/-- Write the files that have changed. -/
def writeChanges (before after : FileTree) : IO Unit := do
  for (place, bytes) in after.files do
    if before.bytes? place != some bytes then
      IO.FS.writeBinFile place.text ⟨bytes.toArray⟩

/-- A generator from what the machine has at random. -/
def freshGenerator : IO Random.Generator := do
  let bytes ← IO.getRandomBytes 16
  return Random.Generator.ofSeed (bytes.foldl (fun n b => n * 256 + b.toNat) 0)

/-- Carry out a request. -/
def perform (request : Request) : IO UInt32 := do
  let before ← (filesOf request.command).foldlM addPath FileTree.empty
  let (outcome, after) := request.perform ⟨.utf8, ← freshGenerator⟩ before
  writeChanges before after
  match outcome with
  | .error e =>
    IO.eprintln e.message
    return 1
  | .ok ending =>
    IO.print ending.output
    IO.eprint ending.errors
    return ending.code.toUInt32

/-- Carry out the request of some arguments. -/
def performArguments (arguments : List String) : IO UInt32 := do
  match Request.ofArguments arguments with
  | .error .help =>
    IO.print usage
    return 0
  | .error .misuse =>
    IO.eprint usage
    return 2
  | .ok request => perform request

end GrowthGrammar

/-- Carry out the request of the arguments. -/
def main (arguments : List String) : IO UInt32 :=
  GrowthGrammar.performArguments arguments
