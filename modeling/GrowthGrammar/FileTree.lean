import GrowthGrammar.FilePath
import GrowthGrammar.Text.Utf8

/-!
# Trees of files

A tree holds files, which are bytes, and directories, which are there if they
are listed or if something is in them.  A place is given by the names from the
working directory.  Places outside it begin with the name of the root or with
two dots, and the directories above it are always there.

A path is followed name by name, and every name but the last has to lead to a
directory.  Names of the same bytes lead to the same place.  A file is written whole, and writing it either changes that one file
or fails and changes nothing.
-/

namespace GrowthGrammar

/-- A place in a tree: the names that lead there. -/
abbrev Place := List String

namespace Place

/-- The name of the root of all files. -/
def root : String := "/"

/-- The name of the directory above. -/
def above : String := ".."

/-- The place that a name leads to from a directory. -/
def enter (here : Place) (name : String) : Place :=
  if name == above then
    match here.getLast? with
    | none => [above]
    | some last =>
      if last == above then here ++ [above] else if last == root then here else here.dropLast
  else here ++ [Text.nameForm name]

/-- The place is the working directory or a directory above it. -/
def isAbove (place : Place) : Bool :=
  place.all fun name => name == root || name == above

/-- The place is not in the working directory. -/
def isOutside (place : Place) : Bool :=
  place.head? == some root || place.head? == some above

/-- The text of a place. -/
def text : Place → String
  | [] => "."
  | name :: rest =>
    if name == root then name ++ "/".intercalate rest else "/".intercalate (name :: rest)

end Place

/-- The place where a path starts. -/
def FilePath.start (path : FilePath) : Place :=
  if path.anchor = .here then [] else [Place.root]

/-- The place of a path if every name leads on. -/
def FilePath.place (path : FilePath) : Place :=
  path.names.foldl Place.enter path.start

/-- Files and directories. -/
structure FileTree where
  /-- The files and their bytes. -/
  files : List (Place × List UInt8)
  /-- The directories that are listed. -/
  directories : List Place

namespace FileTree

/-- A tree without files. -/
def empty : FileTree := ⟨[], []⟩

/-- The bytes of the file at a place. -/
def bytes? (t : FileTree) (place : Place) : Option (List UInt8) :=
  (t.files.find? fun f => f.1 == place).map Prod.snd

/-- There is a directory at a place. -/
def hasDirectory (t : FileTree) (place : Place) : Bool :=
  place.isAbove
    || t.directories.any (fun d => place.isPrefixOf d)
    || t.files.any (fun f => place.isPrefixOf f.1.dropLast)

/-- The most bytes that a name may have. -/
def longestName : Nat := 255

/-- The most bytes that a path may have. -/
def longestPath : Nat := 4095

/-- The place at the end of some names, reached from a directory. -/
def follow (t : FileTree) (here : Place) : List String → Except FileFault Place
  | [] => .ok here
  | name :: rest =>
    let place := here.enter name
    if longestName < (Text.encode name).length then .error .nameTooLong
    else if rest.isEmpty || t.hasDirectory place then follow t place rest
    else if (t.bytes? place).isSome then .error .notDirectory
    else .error .notFound

/-- The place of a path. -/
def placeOf (t : FileTree) (path : FilePath) : Except FileFault Place :=
  if longestPath < (Text.encode path.text).length then .error .nameTooLong
  else t.follow path.start path.names

/-- The bytes of a file. -/
def read (t : FileTree) (path : FilePath) : Except FileFault (List UInt8) := do
  let place ← t.placeOf path
  if t.hasDirectory place then throw .isDirectory
  match t.bytes? place with
  | some bytes => return bytes
  | none => throw .notFound

/-- Some files with other bytes in one of them, or with one more. -/
def setFile (place : Place) (bytes : List UInt8) :
    List (Place × List UInt8) → List (Place × List UInt8)
  | [] => [(place, bytes)]
  | f :: rest => if f.1 == place then (place, bytes) :: rest else f :: setFile place bytes rest

/-- The tree with a file written. -/
def write (t : FileTree) (path : FilePath) (bytes : List UInt8) : Except FileFault FileTree := do
  let place ← t.placeOf path
  if t.hasDirectory place then throw .isDirectory
  return { t with files := setFile place bytes t.files }

/-! ## Uses of files -/

/-- The bytes of a file that is read for some use.  Messages show its path as it
was given. -/
def load (t : FileTree) (use : FileUse) (shown : String) (path : FilePath) :
    Except Error (List UInt8) := do
  path.checkText
  (t.read path).mapError (.file use shown)

/-- The tree with a text written to a file for some use. -/
def save (t : FileTree) (use : FileUse) (shown : String) (path : FilePath) (text : String) :
    Except Error FileTree := do
  path.checkText
  let tree ← (t.write path (Text.encode text)).mapError (.file use shown)
  if Text.hasHalf text.toList then throw .notEncodable
  return tree

end FileTree

end GrowthGrammar
