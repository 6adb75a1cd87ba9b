import GrowthGrammar.Error

/-!
# Paths of files

A path is kept as its names, and starts from the working directory or from the
root of all files.  Empty parts and single dots name nothing, so `./a//b/` is
`a/b`, and the working directory is written as a single dot.  Two dots name the
directory above.  The root is written with one slash or, if exactly two are
given, with two.

The suffix of a path is the last part of its last name, from a dot that is
neither at the start nor at the end of the name.
-/

namespace GrowthGrammar

/-- Where a path starts. -/
inductive Anchor
  /-- The working directory. -/
  | here
  /-- The root of all files. -/
  | root
  /-- The root of all files, written with two slashes. -/
  | doubleRoot
  deriving DecidableEq, Repr

/-- The start of a path in its text. -/
def Anchor.text : Anchor → String
  | .here => ""
  | .root => "/"
  | .doubleRoot => "//"

/-- The start of a path whose text begins with so many slashes. -/
def Anchor.ofSlashes (count : Nat) : Anchor :=
  if count = 0 then .here else if count = 2 then .doubleRoot else .root

/-- The names on the way to a file. -/
structure FilePath where
  /-- Where the path starts. -/
  anchor : Anchor
  /-- The names, the last one that of the file. -/
  names : List String
  deriving DecidableEq, Repr

namespace FilePath

/-- The names in a text, in front of which `current` has been read, newest
character first. -/
def namesFrom (current : List Char) : List Char → List String
  | [] => [String.ofList current.reverse]
  | c :: cs =>
    if c == '/' then String.ofList current.reverse :: namesFrom [] cs
    else namesFrom (c :: current) cs

/-- The path that a text writes. -/
def ofText (text : String) : FilePath :=
  ⟨Anchor.ofSlashes (text.toList.takeWhile (· == '/')).length,
    (namesFrom [] text.toList).filter fun name => !name.isEmpty && name != "."⟩

/-- The text of a path. -/
def text (p : FilePath) : String :=
  if p.anchor = .here && p.names.isEmpty then "."
  else p.anchor.text ++ "/".intercalate p.names

/-- The last name of a path. -/
def name (p : FilePath) : String := p.names.getLast?.getD ""

/-- The part of a name before its suffix, and the suffix. -/
def splitSuffix (name : List Char) : List Char × List Char :=
  let after := name.reverse.takeWhile (· != '.')
  let stem := ((name.reverse.dropWhile (· != '.')).drop 1).reverse
  if after.isEmpty || stem.isEmpty then (name, []) else (stem, '.' :: after.reverse)

/-- The suffix of a path. -/
def suffix (p : FilePath) : String :=
  String.ofList (splitSuffix p.name.toList).2

/-- The path with another suffix, if it has a name. -/
def withSuffix (p : FilePath) (suffix : String) : Except Error FilePath :=
  if p.name.isEmpty then .error (.value (.noFileName p.text))
  else
    let stem := (splitSuffix p.name.toList).1
    .ok ⟨p.anchor, p.names.dropLast ++ [String.ofList stem ++ suffix]⟩

/-- The system can be asked for the file: the text of the path has bytes, none of
them zero. -/
def checkText (p : FilePath) : Except Error Unit :=
  let cs := p.text.toList
  if Text.hasLooseHalf cs then .error .notEncodable
  else if cs.contains '\x00' then .error (.value .zeroCharacter)
  else .ok ()

/-! ## Tests -/

example : splitSuffix "x.tar.SVG".toList = ("x.tar".toList, ".SVG".toList) := by decide
example : splitSuffix ".svg".toList = (".svg".toList, []) := by decide
example : splitSuffix "x.".toList = ("x.".toList, []) := by decide
example : splitSuffix "..".toList = ("..".toList, []) := by decide

end FilePath

end GrowthGrammar
