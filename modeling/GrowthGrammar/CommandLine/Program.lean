import GrowthGrammar.CommandLine.Command
import GrowthGrammar.Drawing.Graph.File
import GrowthGrammar.Drawing.Svg
import GrowthGrammar.Plant.File
import GrowthGrammar.Text.Display

/-!
# The program

A command is carried out on a tree of files.  A derivation reads its plant file,
derives the plant and writes one file: the word itself, or the drawing of the
word as a document or as a graph.  The target of a document has the suffix of its
format.

What the program says is shown on a terminal (`Text.displayed`), as soon as it is
said.  If the terminal cannot show it, an error escapes, and what was done before
stays done.  An error of the library ends the program with a message and the exit
code one.  The message is written for errors, where every code point has some form.
An error of another kind is a call that makes no sense, and it escapes.
-/

namespace GrowthGrammar.CommandLine

/-- What the program takes from the machine that it runs on, besides the files. -/
structure Surroundings where
  /-- The terminal. -/
  terminal : Text.Terminal
  /-- The generator of a derivation without a seed. -/
  fresh : Random.Generator

/-- What the program works on. -/
structure Run where
  /-- The families and systems. -/
  workspace : Workspace
  /-- The files. -/
  tree : FileTree
  /-- The machine. -/
  around : Surroundings
  /-- Report every stage. -/
  verbose : Bool
  /-- The reported stages, the last one first. -/
  stages : List String

namespace Run

/-- The start of the program. -/
def start (tree : FileTree) (around : Surroundings) (verbose : Bool) : Run :=
  ⟨.empty, tree, around, verbose, []⟩

/-- A computation on the workspace. -/
def onWorkspace {α : Type} (step : Step Workspace α) : Step Run α :=
  Step.on Run.workspace (fun ws r => { r with workspace := ws }) step

/-- Show a text on the terminal. -/
def say (text : String) : Step Run Unit := do
  unless (← get).around.terminal.canShow text do throw .notEncodable

/-- Report a stage that is done, if that is asked for.  The report is not protected
from being taken for instructions. -/
def note (stage : String) : Step Run Unit := do
  if (← get).verbose then
    if Text.hasStrayEnd stage then throw .strayEnd
    let shown := Text.reported stage
    say shown
    modify fun r => { r with stages := shown :: r.stages }

/-- Write a text to a file. -/
def writeText (path : FilePath) (text : String) : Step Run Unit :=
  Step.ofRun fun r =>
    match r.tree.save .writeResult path.text path text with
    | .error e => (.error e, r)
    | .ok tree => (.ok (), { r with tree := tree })

/-- An outcome that does not depend on the run. -/
def settle {α : Type} (outcome : Except Error α) : Step Run α :=
  Step.look fun _ => outcome

end Run

/-! ## Derivations -/

namespace Derivation

/-- The format of the result, which has to be given. -/
def formatGiven (d : Derivation) : Except Error Format :=
  match d.format with
  | none => .error .wrongType
  | some format => .ok format

/-- The file to write, which has to be given. -/
def outputGiven (d : Derivation) : Except Error FilePath :=
  match d.output with
  | none => .error .notRecord
  | some output => .ok output

/-- The file to write, with the suffix that a format asks for. -/
def target (d : Derivation) (format : Format) : Except Error FilePath := do
  let output ← d.outputGiven
  match format.suffix? with
  | none => return output
  | some suffix => if output.suffix == suffix then return output else output.withSuffix suffix

/-- The canvas to draw on. -/
def canvas (d : Derivation) : Drawing.Canvas :=
  { Drawing.Canvas.standard with width := d.width, height := d.height }

/-- The text of a drawing in a format, and the file to write it to.  An image has
no text. -/
def drawingText [Ruler] (d : Derivation) (format : Format) (path : Path Float) :
    Except Error (FilePath × String) :=
  match format with
  | .json => do
    let text := (← Graph.ofPath Graph.usualPrecision path).toJson
    return (← d.target .json, text)
  | .png => do throw (.file .writeResult (← d.target .png).text .unsupported)
  | format => do return (← d.target format, ← Drawing.svg d.canvas path)

/-- Derive a plant and write the result.  A document needs its file before the
drawing is begun. -/
def perform [Ruler] (d : Derivation) : Step Run FilePath := do
  let tree := (← get).tree
  let plant ← Run.onWorkspace (Plant.load tree d.file.text d.file)
  Run.note ("Loaded " ++ d.file.text ++ ": "
    ++ (← Run.onWorkspace (Workspace.onSystem plant.system System.shown)))
  let fresh := (← get).around.fresh
  let word ← Run.onWorkspace (plant.derive fresh)
  Run.note ("Derived " ++ toString word.length ++ " symbols in "
    ++ toString plant.run.iterations ++ " iterations")
  let format ← Run.settle d.formatGiven
  if format = .text then
    let target ← Run.settle (d.target format)
    Run.writeText target (Word.text word ++ "\n")
    return target
  else
    if format.suffix?.isSome then
      let _ ← Run.settle (d.target format)
    let path ← Run.settle (plant.turtle.walk word none)
    Run.note ("Interpreted into " ++ toString path.length ++ " edges")
    let (target, text) ← Run.settle (d.drawingText format path)
    Run.writeText target text
    return target

end Derivation

/-! ## Descriptions -/

/-- One symbol of the vocabulary. -/
def describeLine (d : Description) : String :=
  d.name ++ "  " ++ d.use.word ++ "  " ++ d.words.getD "" ++ "\n"

/-- The vocabulary of the turtle. -/
def description : Step Run String := do
  let id ← Run.onWorkspace (Workspace.familyOr Family.turtleName Workspace.turtleFamily)
  let family ← Run.onWorkspace (Workspace.family id)
  return family.name ++ " family\n" ++ String.join (family.descriptions.map describeLine)

/-! ## The program -/

/-- The answer to a derivation, by the file that was written. -/
def Derivation.answer (target : FilePath) : String := Text.displayed "Wrote" target.text ++ "\n"

/-- Carry out a command, and show the answer. -/
def Command.perform [Ruler] (command : Command) : Step Run String := do
  let answer ← match command with
    | .derive d => Derivation.answer <$> d.perform
    | .describe => description
  Run.say answer
  return answer

/-- How the program ends. -/
structure Ending where
  /-- The exit code. -/
  code : Nat
  /-- The text on the output. -/
  output : String
  /-- The text on the error output. -/
  errors : String

/-- The program reports errors of this category itself. -/
def isReported : Error.Kind → Bool
  | .locking | .io | .parsing | .unknownSymbol | .stackUnderflow | .invalidSettings => true
  | _ => false

/-- A line for each stage. -/
def stageLines (r : Run) : String :=
  String.join (r.stages.reverse.map (· ++ "\n"))

/-- How the program ends. -/
def endingOf (r : Run) : Except Error String → Except Error Ending
  | .ok answer => .ok ⟨0, stageLines r ++ answer, ""⟩
  | .error e =>
    if isReported e.kind then
      .ok ⟨1, stageLines r, Text.displayed (e.kind.label ++ " error:") e.message ++ "\n"⟩
    else .error e

/-- What the program does on a request: how it ends, and the files that it leaves. -/
def Request.perform [Ruler] (request : Request) (around : Surroundings) (tree : FileTree) :
    Except Error Ending × FileTree :=
  let (outcome, r) := request.command.perform.runFrom (Run.start tree around request.verbose)
  (endingOf r outcome, r.tree)

end GrowthGrammar.CommandLine
