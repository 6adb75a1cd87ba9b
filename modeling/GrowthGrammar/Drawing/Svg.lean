import GrowthGrammar.Drawing.Coordinate
import GrowthGrammar.Drawing.Fit
import GrowthGrammar.Markup
import GrowthGrammar.Settings.Configuration

/-!
# Drawings as SVG

The document of a drawing has one group, which carries the pen and the fit onto
the canvas, and in it one path element for each polyline.  The polylines keep
the coordinates of the plane.  A drawing without edges has nothing to fit.
-/

namespace GrowthGrammar.Drawing

/-! ## Polylines -/

/-- A command of a path element and the point it goes to. -/
def command (letter : Char) (p : Point Float) : List Char :=
  letter :: coordinate p.x ++ ' ' :: coordinate p.y

/-- The commands of a polyline: a move to its first point and a line to each of
the others. -/
def polylineCommands : List (Point Float) → List (List Char)
  | [] => []
  | p :: rest => command 'M' p :: rest.map (command 'L')

/-- The data of a path element. -/
def polylineText (points : List (Point Float)) : String :=
  String.ofList ([' '].intercalate (polylineCommands points))

/-- The data of a polyline, which has to have a point. -/
def polylineText? (points : List (Point Float)) : Except Error String :=
  if points.isEmpty then .error (.value .noPoint) else .ok (polylineText points)

/-! ## Fits -/

/-- Two numbers after the name of a transformation. -/
def transformation (name : String) (x y : Float) : String :=
  name ++ "(" ++ coordinateText x ++ " " ++ coordinateText y ++ ")"

/-- The text of a fit. -/
def fitText (f : Fit Float) : String :=
  transformation "translate" f.middle.x f.middle.y ++ " "
    ++ transformation "scale" f.scale (-f.scale) ++ " "
    ++ transformation "translate" (-f.center.x) (-f.center.y)

/-- The text of the fit of a path, empty if it has no edge. -/
def placement (path : Path Float) (width height : Size) : Except Error String :=
  match path.bounds? with
  | none => .ok ""
  | some b => (Fit.onCanvas width height b).map fitText

/-! ## Documents -/

/-- The canvas and the pen of a drawing. -/
structure Canvas where
  /-- The width of the canvas. -/
  width : Size
  /-- The height of the canvas. -/
  height : Size
  /-- The colour of the pen. -/
  stroke : String
  /-- The width of the pen. -/
  strokeWidth : Float

/-- The canvas and the pen of a configuration. -/
def Canvas.ofConfiguration (c : Configuration) : Canvas :=
  ⟨.whole c.width, .whole c.height, c.stroke, c.strokeWidth⟩

/-- The canvas and the pen that hold when nothing is said. -/
def Canvas.standard : Canvas := Canvas.ofConfiguration Configuration.standard

/-- The error of a canvas without an area, whose message has the sizes. -/
def noArea (width height : Size) : Error :=
  if width.isWritable && height.isWritable then
    .settings (.canvasSize width.text height.text)
  else .value .unwritable

/-- Refuse a canvas without an area. -/
def checkArea (width height : Size) : Except Error Unit := do
  let flat ← if ← width.isEmpty then pure true else height.isEmpty
  if flat then throw (noArea width height)

/-- Refuse sizes that cannot be written. -/
def checkDigits (width height : Size) : Except Error Unit :=
  if width.isWritable && height.isWritable then .ok () else .error (.value .unwritable)

/-- The colour that a datum names. -/
def strokeOfDatum : Datum → Except Error String
  | .text s => .ok s
  | _ => .error .notRecord

/-- The width of lines that a datum gives. -/
def strokeWidthOfDatum : Datum → Except Error Float
  | .text _ => .error (.value .textWidth)
  | d => Vec.factorOfDatum d

/-- A datum, or another one if it is missing. -/
def orElse (usual : Datum) : Datum → Datum
  | .null => usual
  | d => d

/-- The canvas and the pen that some data give.  What is missing is as usual, and
of several faults the first one counts, that of the area before those of the
pen. -/
def Canvas.ofData (width height stroke strokeWidth : Datum) : Except Error Canvas := do
  let usual := Configuration.standard
  let width := Size.ofDatum (orElse (.int usual.width) width)
  let height := Size.ofDatum (orElse (.int usual.height) height)
  checkArea width height
  let stroke ← strokeOfDatum (orElse (.text usual.stroke) stroke)
  let strokeWidth ← strokeWidthOfDatum (orElse (.real usual.strokeWidth) strokeWidth)
  return ⟨width, height, stroke, strokeWidth⟩

/-- The name of the vocabulary of these documents. -/
def svgSpace : String := "http://www.w3.org/2000/svg"

/-- The attributes of the pen. -/
def penAttributes (canvas : Canvas) : List (String × String) := [
  ("stroke", canvas.stroke),
  ("stroke-width", coordinateText canvas.strokeWidth),
  ("fill", "none"),
  ("vector-effect", "non-scaling-stroke")]

/-- The attribute of a fit, if there is one. -/
def fitAttributes (fit : String) : List (String × String) :=
  if fit.isEmpty then [] else [("transform", fit)]

/-- The path element of a polyline. -/
def polylineElement (points : List (Point Float)) : Element :=
  .leaf "path" [("d", polylineText points)]

/-- The document of some polylines with a fit. -/
def svgElement (canvas : Canvas) (fit : String) (polylines : List (List (Point Float))) :
    Element :=
  .node "svg"
    [("version", "1.1"), ("width", canvas.width.text), ("height", canvas.height.text),
      ("xmlns", svgSpace)]
    [.node "g" (penAttributes canvas ++ fitAttributes fit) (polylines.map polylineElement)]

/-- The document of a path on a canvas, which has to have an area.  The path is placed
before the sizes are written. -/
def svgOf (canvas : Canvas) (path : Path Float) : Except Error Element := do
  checkArea canvas.width canvas.height
  let fit ← placement path canvas.width canvas.height
  checkDigits canvas.width canvas.height
  return svgElement canvas fit path.polylines

/-- The text of the document of a path. -/
def svg (canvas : Canvas) (path : Path Float) : Except Error String :=
  (svgOf canvas path).map Element.document

end GrowthGrammar.Drawing
