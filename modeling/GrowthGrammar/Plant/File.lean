import GrowthGrammar.FileTree
import GrowthGrammar.Plant
import GrowthGrammar.Text.Utf8

/-!
# Plant files

A plant file is read as UTF-8, and its line breaks are unified.  A file that
cannot be opened is one kind of error, and bytes that are not UTF-8 are another.
-/

namespace GrowthGrammar.Plant

/-- The text of a plant file.  Messages show the path as it was given. -/
def textOf (tree : FileTree) (shown : String) (path : FilePath) : Except Error (List Char) := do
  match Text.decodeUtf8 (← tree.load .readPlant shown path) with
  | .error (fault, offset) => throw (.parse (.notUtf8 shown fault offset))
  | .ok text => return Text.unifyBreaks (Text.ofCharacters text)

/-- The plant in a file. -/
def load [Ruler] (tree : FileTree) (shown : String) (path : FilePath) : Step Workspace Plant := do
  read (← Step.look fun _ => textOf tree shown path)

end GrowthGrammar.Plant
