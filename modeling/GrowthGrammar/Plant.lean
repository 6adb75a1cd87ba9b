import GrowthGrammar.Plant.Line
import GrowthGrammar.Text.Lines
import GrowthGrammar.Turtle.Settings
import GrowthGrammar.Workspace

/-!
# Plants

A plant is a system, an initial word and the settings to derive and to draw it
with.  `Plant.read` reads one from text.  All plants of a workspace share the
table of the turtle family, which is built the first time it is asked for.

Lines are taken in order, and the first line that is refused ends the reading; if
it is the text that is refused, the error names the line.  A setting given again
replaces the one before.  Only after the last line is the initial word read and
are the settings checked.
-/

namespace GrowthGrammar

/-- A system that is ready to be derived and drawn. -/
structure Plant where
  /-- The system with the rules. -/
  system : SystemId
  /-- The initial word. -/
  initial : Word
  /-- How to derive it. -/
  run : Schedule
  /-- How to draw it. -/
  turtle : TurtleSettings

namespace Plant

/-- What the lines so far have given. -/
structure Draft where
  /-- The number of passes. -/
  iterations : Int
  /-- The angle of a turn. -/
  delta : Float
  /-- The length of a step. -/
  step : Float
  /-- The seed of the draws. -/
  seed : Option Int
  /-- The text of the initial word. -/
  initial : Option String
  /-- The number of rules. -/
  rules : Nat

namespace Draft

/-- What holds before the first line. -/
def start : Draft where
  iterations := Configuration.standard.iterations
  delta := TurtleSettings.standard.delta
  step := TurtleSettings.standard.stepLength
  seed := none
  initial := none
  rules := 0

/-- The draft with a setting. -/
def set (d : Draft) : PlantSetting → Draft
  | .iterations n => { d with iterations := n }
  | .delta x => { d with delta := x }
  | .step x => { d with step := x }
  | .seed n => { d with seed := some n }

/-- How the draft says to derive it. -/
def schedule (d : Draft) : Except Error Schedule :=
  Schedule.ofNumbers (.int d.iterations) ((d.seed.map Datum.int).getD .null)

/-- How the draft says to draw it. -/
def turtleSettings [Ruler] (d : Draft) : Except Error TurtleSettings :=
  TurtleSettings.ofFields
    { delta := some (.real d.delta)
      stepLength := some (.real d.step)
      actions := none
      position := none
      heading := none
      names := [] }

end Draft

/-- A fault of a plant as an error. -/
def refuse {α : Type} (fault : PlantFault) : Step Workspace α :=
  throw (.parse (.plant fault))

/-- An error of a line.  If the text is refused, it names the line. -/
def atLine (number : Nat) : Error → Error
  | .parse fault => .parse (.atLine number fault)
  | e => e

/-- The draft after a line. -/
def readLine (system : SystemId) (d : Draft) : PlantLine → Step Workspace Draft
  | .blank => return d
  | .initial word =>
    match d.initial with
    | some _ => refuse .secondInitial
    | none => return { d with initial := some word }
  | .setting key value =>
    match PlantSetting.read key value with
    | .error fault => refuse fault
    | .ok setting => return d.set setting
  | .rule text => do
    let _ ← Workspace.onSystem system (System.addText text)
    return { d with rules := d.rules + 1 }

/-- The draft after some lines, the first of which has the given number. -/
def readLines (system : SystemId) (number : Nat) (d : Draft) :
    List (List Char) → Step Workspace Draft
  | [] => return d
  | line :: rest => do
    let d ← Step.mapError (atLine number) (readLine system d (PlantLine.ofText line))
    readLines system (number + 1) d rest

/-- The plant of a draft. -/
def ofDraft [Ruler] (system : SystemId) (d : Draft) : Step Workspace Plant :=
  match d.initial with
  | none => refuse (if d.rules = 0 then .noRules else .noInitial)
  | some word =>
    if d.rules = 0 then refuse .noRules
    else if word.isEmpty then refuse .noInitial
    else do
      let initial ← Workspace.onSystem system (System.onTable (NameTable.readWord word))
      let run ← Step.look fun _ => d.schedule
      let turtle ← Step.look fun _ => d.turtleSettings
      return { system, initial, run, turtle }

/-- The system of a new plant. -/
def newSystem : Step Workspace SystemId := do
  let family ← Workspace.familyOr Family.turtleName Workspace.turtleFamily
  Workspace.systemOfFamily family Configuration.standard.tieBreak

/-- The plant that a text describes. -/
def read [Ruler] (text : List Char) : Step Workspace Plant :=
  if Text.isNonBlank text then do
    let system ← newSystem
    ofDraft system (← readLines system 1 .start (Text.lines text))
  else refuse .noText

/-- The rules of a plant, predecessor by predecessor. -/
def rules (p : Plant) : Step Workspace (List Rule) :=
  Workspace.onSystem p.system (System.onStore RuleStore.toList)

/-- The names in the table of a plant. -/
def names (p : Plant) : Step Workspace (List String) := do
  return Word.names (← Workspace.onSystem p.system (System.onTable NameTable.symbols))

/-- The word that a plant grows into. -/
def derive (p : Plant) (fresh : Random.Generator) : Step Workspace Word :=
  Workspace.onSystem p.system (System.derive p.run fresh p.initial)

end Plant

end GrowthGrammar
