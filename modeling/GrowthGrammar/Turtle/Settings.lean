import GrowthGrammar.Settings.Field
import GrowthGrammar.Settings.Reserved
import GrowthGrammar.Turtle

/-!
# Settings of the turtle

The settings say how far the turtle steps and turns, what each name makes it do
and where it starts.  A name without an entry is ignored.  The heading it starts
with is kept with length one.

`TurtleSettings.ofFields` reads loosely typed fields.  Each value passes the rules
of its field: the turn is finite, the step is finite and positive, the position
is finite and the heading has a direction.  Changing the actions checks every
field again.

`TurtleSettings.walk` walks over a word.
-/

namespace GrowthGrammar

/-- How names move the turtle. -/
structure TurtleSettings where
  /-- The angle of a turn, in degrees. -/
  delta : Float
  /-- The length of a step. -/
  stepLength : Float
  /-- What names make the turtle do. -/
  actions : List (String × Action)
  /-- Where it starts. -/
  position : Point Float
  /-- Where it looks at the start. -/
  heading : Vec Float

namespace TurtleSettings

/-- The word for these settings in messages. -/
def subject : String := "InterpretationSettings"

/-- The usual actions, with the long names of plant files. -/
def usualActions : List (String × Action) := [
  ("F", .draw), ("f", .move), ("Forward", .draw), ("Move", .move),
  ("+", .left), ("-", .right), ("[", .push), ("]", .pop)]

/-- The settings that hold when nothing is said. -/
def standard : TurtleSettings where
  delta := 22.5
  stepLength := 1.0
  actions := usualActions
  position := Point.origin
  heading := Vec.up

/-- What a name makes the turtle do. -/
def actionOf (s : TurtleSettings) (name : String) : Action :=
  (Datum.getField? name s.actions).getD .ignore

/-! ## The rules of the fields -/

/-- A position has to be finite. -/
def checkPosition (p : Point Float) : Except Flaw (Point Float) :=
  if p.isFinite then .ok p else .error (.refused "start position must be finite")

/-- A heading has to be finite and not zero.  It is given length one. -/
def checkHeading [Ruler] (v : Vec Float) : Except Flaw (Vec Float) :=
  if !v.isFinite || v.norm == 0 then
    .error (.refused "start heading must be a finite, non-zero vector")
  else v.unit.mapError fun e => .refused e.message

/-- A step has to be finite and positive. -/
def checkStep (x : Float) : Except Flaw Float := do
  Settings.positive (← Settings.finite x)

/-- The settings whose fields have the given outcomes. -/
def collect (delta stepLength : Settings.Checked Float)
    (actions : Settings.Checked (List (String × Action)))
    (position : Settings.Checked (Point Float)) (heading : Settings.Checked (Vec Float)) :
    Settings.Checked TurtleSettings :=
  (Settings.both delta (Settings.both stepLength (Settings.both actions
    (Settings.both position heading)))).map
    fun (delta, stepLength, actions, position, heading) =>
      { delta, stepLength, actions, position, heading }

/-- The settings, if every field keeps its rule. -/
def recheck [Ruler] (s : TurtleSettings) : Settings.Checked TurtleSettings :=
  collect (Settings.placed "delta" (Settings.finite s.delta))
    (Settings.placed "step_length" (checkStep s.stepLength))
    (.ok s.actions)
    (Settings.placed "start_position" (checkPosition s.position))
    (Settings.placed "start_heading" (checkHeading s.heading))

/-- Issues of these settings as an error. -/
def orError {α : Type} (outcome : Settings.Checked α) : Except Error α :=
  outcome.mapError fun issues => .settings (.fields subject issues)

/-- The settings with some actions changed. -/
def override [Ruler] (s : TurtleSettings) (changes : List (String × Action)) :
    Except Error TurtleSettings := do
  Settings.refuseReserved (changes.map Prod.fst)
  orError (recheck { s with
    actions := changes.foldl (fun all (name, a) => Datum.setField name a all) s.actions })

/-! ## Reading fields -/

/-- A pair of coordinates, as such or as a record. -/
inductive PairField
  /-- The two coordinates. -/
  | pair (first second : Float)
  /-- A datum. -/
  | datum (d : Datum)

/-- The fields of the settings as they are given. -/
structure Fields where
  /-- The angle of a turn. -/
  delta : Option Datum
  /-- The length of a step. -/
  stepLength : Option Datum
  /-- What names make the turtle do. -/
  actions : Option Datum
  /-- Where it starts. -/
  position : Option PairField
  /-- Where it looks at the start. -/
  heading : Option PairField
  /-- The names of all fields that are given. -/
  names : List String

/-- A field that is given, or its default. -/
def given {α β : Type} (value : Option α) (default : β) (read : α → Settings.Checked β) :
    Settings.Checked β :=
  match value with
  | none => .ok default
  | some v => read v

/-- The action of a name, by its word. -/
def readAction (name : String) (d : Datum) : Settings.Checked Action :=
  (Settings.choice Action.ofDatum d).mapError fun flaw => [⟨["symbol_action", name], flaw⟩]

/-- The actions of some names. -/
def readActions : List (String × Datum) → Settings.Checked (List (String × Action))
  | [] => .ok []
  | (name, d) :: rest =>
    (Settings.both (readAction name d) (readActions rest)).map fun (a, more) => (name, a) :: more

/-- A table of actions. -/
def actionsOfDatum : Datum → Settings.Checked (List (String × Action))
  | .record fields => readActions fields
  | _ => .error [⟨["symbol_action"], .tableKind⟩]

/-- A member of a pair. -/
def readMember (field member : String) (d : Datum) : Settings.Checked Float :=
  match d.get? member with
  | none => .error [⟨[field, member], .missing⟩]
  | some value => (Settings.number value).mapError fun flaw => [⟨[field, member], flaw⟩]

/-- The coordinates of a pair whose members have the given names. -/
def readPair (field first second : String) : PairField → Settings.Checked (Float × Float)
  | .pair a b => .ok (a, b)
  | .datum (.record fields) =>
    Settings.both (readMember field first (.record fields))
      (readMember field second (.record fields))
  | .datum _ => .error [⟨[field], .pairKind⟩]

/-- The settings that some fields give, or the issues of the fields. -/
def check [Ruler] (f : Fields) : Settings.Checked TurtleSettings :=
  collect
    (given f.delta standard.delta fun d =>
      Settings.placed "delta" do Settings.finite (← Settings.number d))
    (given f.stepLength standard.stepLength fun d =>
      Settings.placed "step_length" do checkStep (← Settings.number d))
    (given f.actions standard.actions actionsOfDatum)
    (given f.position standard.position fun p => do
      let (x, y) ← readPair "start_position" "x" "y" p
      Settings.placed "start_position" (checkPosition ⟨x, y⟩))
    (given f.heading standard.heading fun p => do
      let (dx, dy) ← readPair "start_heading" "dx" "dy" p
      Settings.placed "start_heading" (checkHeading ⟨dx, dy⟩))

/-- The settings that some fields give. -/
def ofFields [Ruler] (f : Fields) : Except Error TurtleSettings := do
  Settings.refuseReserved f.names
  orError (check f)

/-! ## Walking -/

/-- The gait of the turtle. -/
def gait (s : TurtleSettings) : Gait Float :=
  ⟨s.stepLength, Turn.by s.delta, Turn.by (-s.delta)⟩

/-- The pose the settings start with. -/
def startPose (s : TurtleSettings) : Pose Float := ⟨s.position, s.heading⟩

/-- A pose whose heading has length one. -/
def alignPose [Ruler] (pose : Pose Float) : Except Error (Pose Float) :=
  if !pose.heading.isFinite then
    .error (.settings (.headingNotFinite pose.heading.shown))
  else
    match pose.heading.unit with
    | .ok heading => .ok ⟨pose.position, heading⟩
    | .error _ => .error (.settings (.headingTooShort pose.heading.shown))

/-- What a word makes the turtle do. -/
def actionsOf (s : TurtleSettings) (w : Word) : List Action :=
  w.map fun symbol => s.actionOf symbol.name

/-- The error of the action at a place of a word. -/
def underflowAt (w : Word) (place : Nat) : Error :=
  .underflow ((w[place]?.map Symbol.name).getD "") place

/-- The path that a word draws, from a pose or from where the settings start. -/
def walk [Ruler] (s : TurtleSettings) (w : Word) (start : Option (Pose Float)) :
    Except Error (Path Float) := do
  let pose ← alignPose (start.getD s.startPose)
  (drawActions s.gait pose (s.actionsOf w)).mapError (underflowAt w)

end TurtleSettings

end GrowthGrammar
