import GrowthGrammar.Drawing.Graph.Document
import GrowthGrammar.Drawing.Graph.Reader
import GrowthGrammar.FileTree
import GrowthGrammar.Text.Utf8

/-!
# Graph files

A graph is saved as the text of its document and loaded from it.
-/

namespace GrowthGrammar.Graph

/-- The tree with the document of a graph in a file. -/
def save (g : Graph Nat) (tree : FileTree) (path : String) : Except Error FileTree :=
  tree.save .writeGraph path (FilePath.ofText path) g.toJson

/-- The graph in a file. -/
def load (tree : FileTree) (path : String) : Except Error (Graph Datum) := do
  match Text.decodeUtf8 (← tree.load .readGraph path (FilePath.ofText path)) with
  | .error _ => throw .notDecodable
  | .ok text => ofJson text

end GrowthGrammar.Graph
