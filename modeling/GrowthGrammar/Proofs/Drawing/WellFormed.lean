import GrowthGrammar.Proofs.CommandLine.Escape
import GrowthGrammar.Proofs.Drawing.PathData
import GrowthGrammar.Proofs.Markup.ReadBack
import GrowthGrammar.Proofs.Plane.Runs

/-!
# Well-formed drawings

The names in the document of a drawing are fixed, and its values are numbers, points and the colour
of the pen.  So a reader of markup gets the elements back that were written, if the colour has legal
characters (`isProper_svgElement`), and from the data of each path element the points of its line.

The runs of a path are the path cut into pieces, and each line goes on to the end of each edge of its
run.  So all lines together go on to the ends of all edges, in order (`lineEnds_polylines`).

Main statement: what a reader finds in the document of a drawing (`svg_reads_back`).  There is a
document unless a size of the canvas, although it is above zero, is too large to place the path with
doubles.  A canvas without a path can be larger, but has no document if a size of it has too many
digits to be written.
-/

namespace GrowthGrammar

open Markup (AreProper IsReadable isName)

namespace Drawing

/-! ## Readable values -/

theorem isReadable_of_isVisible {value : List Char} (visible : Text.IsVisible value) :
    IsReadable value := by
  refine ⟨visible.isAscii.isWhole, fun c member => ?_⟩
  obtain ⟨low, high⟩ := visible c member
  have inside : 0x20 ≤ c.toNat ∧ c.toNat ≤ 0xfffd := ⟨low, by omega⟩
  simp [Markup.isLegal, inside]

/-- The pen and the fit are proper attributes, and their names are fixed. -/
theorem areProper_group {canvas : Canvas} {fit : String} (stroke : IsReadable canvas.stroke.toList)
    (fitted : Text.IsVisible fit.toList) :
    AreProper (penAttributes canvas ++ fitAttributes fit) := by
  have pen := isReadable_of_isVisible (isVisible_coordinateText canvas.strokeWidth)
  have placed := isReadable_of_isVisible fitted
  have fill : IsReadable "none".toList := isReadable_of_isVisible (by decide)
  have effect : IsReadable "non-scaling-stroke".toList := isReadable_of_isVisible (by decide)
  have transform : isName "transform".toList = true := by decide
  constructor
  · rw [List.forall_mem_append, fitAttributes]
    refine ⟨?_, ?_⟩
    · simp only [penAttributes, List.forall_mem_cons]
      exact ⟨⟨by decide, stroke⟩, ⟨by decide, pen⟩, ⟨by decide, fill⟩, ⟨by decide, effect⟩,
        List.forall_mem_nil _⟩
    · split
      · exact List.forall_mem_nil _
      · exact List.forall_mem_singleton.mpr ⟨transform, placed⟩
  · rw [List.map_append, fitAttributes]
    split <;> simp [penAttributes]

theorem isProper_polylineElement (points : List (Point Float)) :
    (polylineElement points).IsProper := by
  have name : isName "d".toList = true := by decide
  have data := isReadable_of_isVisible (isVisible_polylineText points)
  exact ⟨by decide, List.forall_mem_singleton.mpr ⟨name, data⟩, List.nodup_singleton _⟩

/-- The document of a drawing can be read. -/
theorem isProper_svgElement {canvas : Canvas} {fit : String} (wide : canvas.width.IsNumber)
    (high : canvas.height.IsNumber) (stroke : IsReadable canvas.stroke.toList)
    (fitted : Text.IsVisible fit.toList) (polylines : List (List (Point Float))) :
    (svgElement canvas fit polylines).IsProper := by
  have width := isReadable_of_isVisible (Size.isVisible_text wide)
  have height := isReadable_of_isVisible (Size.isVisible_text high)
  have version : IsReadable "1.1".toList := isReadable_of_isVisible (by decide)
  have space : IsReadable svgSpace.toList := isReadable_of_isVisible (by decide)
  refine ⟨⟨by decide, ?_, by simp⟩, ⟨⟨by decide, areProper_group stroke fitted⟩, ?_⟩, trivial⟩
  · simp only [List.forall_mem_cons]
    exact ⟨⟨by decide, version⟩, ⟨by decide, width⟩, ⟨by decide, height⟩, ⟨by decide, space⟩,
      List.forall_mem_nil _⟩
  · rw [Element.allProper_iff, List.forall_mem_map]
    exact fun points _ => isProper_polylineElement points

/-! ## Lines -/

/-- The commands of the line of a run: a move to its start and a line to the end of each edge. -/
theorem lineCommands_polylineOf (e : Edge Float) (rest : List (Edge Float)) :
    lineCommands (Path.polylineOf (e :: rest)) =
      .move (rounded e.start) :: (e :: rest).map fun e => .line (rounded e.stop) := by
  rw [Path.polylineOf, lineCommands, List.map_map]
  rfl

theorem lineEnds_polylineOf (run : List (Edge Float)) :
    (lineCommands (Path.polylineOf run)).filterMap PathCommand.lineEnd =
      run.map fun e => rounded e.stop := by
  cases run with
  | nil => rfl
  | cons e rest =>
    rw [lineCommands_polylineOf, List.filterMap_cons_none rfl, List.filterMap_map]
    exact congrFun List.filterMap_eq_map' _

/-- All lines together go on to the ends of all edges. -/
theorem lineEnds_polylines (path : Path Float) :
    (path.polylines.flatMap lineCommands).filterMap PathCommand.lineEnd =
      path.map fun e => rounded e.stop := by
  have runs := Path.flatten_runs tolerance path
  rw [Path.polylines, List.flatMap_map, List.filterMap_flatMap]
  simp only [lineEnds_polylineOf]
  conv_rhs => rw [← runs]
  rw [List.map_flatten, List.flatMap_def]

theorem ne_nil_of_mem_polylines {path : Path Float} {points : List (Point Float)}
    (member : points ∈ path.polylines) : ∃ p rest, points = p :: rest := by
  obtain ⟨run, inside, rfl⟩ := List.mem_map.mp member
  cases run with
  | nil => exact absurd rfl (Path.ne_nil_of_mem_runs inside)
  | cons e rest => exact ⟨_, _, rfl⟩

/-- The data of each polyline are read as its commands. -/
theorem readPathData_polylines {path : Path Float} (finite : ∀ p ∈ path.ends, p.IsFinite) :
    List.Forall₂ (fun data points => readPathData data = some (lineCommands points))
      (path.polylines.map polylineText) path.polylines := by
  rw [List.forall₂_map_left_iff, List.forall₂_same]
  intro points member
  obtain ⟨p, rest, rfl⟩ := ne_nil_of_mem_polylines member
  exact readPathData_polylineText fun q inside =>
    finite q (Path.mem_ends_of_mem_polylines member inside)

/-! ## Documents -/

/-- A size of the canvas is too large to place the path with doubles. -/
def Canvas.IsTooLargeFor (canvas : Canvas) (path : Path Float) : Prop :=
  ∃ b, path.bounds? = some b ∧
    (canvas.width.IsTooLargeFor b.width ∨ canvas.height.IsTooLargeFor b.height)

/-- A size of the canvas has too many digits to be written. -/
def Canvas.IsTooLong (canvas : Canvas) : Prop :=
  canvas.width.IsBeyond (10 ^ Decimal.maxDigits) ∨ canvas.height.IsBeyond (10 ^ Decimal.maxDigits)

theorem Canvas.isWritable_iff {canvas : Canvas} (wide : canvas.width.IsNumber)
    (high : canvas.height.IsNumber) : canvas.IsWritable ↔ ¬ canvas.IsTooLong := by
  rw [IsWritable, Size.isWritable_iff wide, Size.isWritable_iff high, IsTooLong, not_or]

/-- With too many digits there is no place for a path that has an edge. -/
theorem Canvas.IsTooLong.isTooLargeFor {canvas : Canvas} (long : canvas.IsTooLong)
    {path : Path Float} (edge : path ≠ []) : canvas.IsTooLargeFor path := by
  cases path with
  | nil => exact absurd rfl edge
  | cons e rest =>
    exact ⟨_, rfl, long.imp (Size.isTooLargeFor_of_isBeyond · _)
      (Size.isTooLargeFor_of_isBeyond · _)⟩

/-- The names of the attributes of the group, which has a fit if the path has an edge. -/
def groupNames (path : Path Float) : List String :=
  ["stroke", "stroke-width", "fill", "vector-effect"] ++
    if path.isEmpty then [] else ["transform"]

theorem names_group {canvas : Canvas} {path : Path Float} {fit : String}
    (placed : placement path canvas.width canvas.height = .ok fit) :
    (penAttributes canvas ++ fitAttributes fit).map Prod.fst = groupNames path := by
  cases path with
  | nil =>
    cases placed
    rfl
  | cons e rest =>
    obtain ⟨f, -, rfl⟩ := map_eq_ok_iff.mp placed
    have some : (fitText f).isEmpty = false := by
      simp [fitText, transformation]
    simp [groupNames, penAttributes, fitAttributes, some]

variable {canvas : Canvas} {path : Path Float}

/-- On a canvas with an area, a document is made, or the sizes are too large to place the path or,
without a path, to be written. -/
theorem svg_cases (wide : canvas.width.IsPositive) (high : canvas.height.IsPositive) :
    (canvas.IsTooLargeFor path ∧ svg canvas path = .error .overflow) ∨
      (path = [] ∧ canvas.IsTooLong ∧ svg canvas path = .error (.value .unwritable)) ∨
      ¬ canvas.IsTooLargeFor path ∧ ¬ canvas.IsTooLong ∧ ∃ fit,
        placement path canvas.width canvas.height = .ok fit ∧
          svg canvas path = .ok (svgElement canvas fit path.polylines).document := by
  have area := (checkArea_eq_ok_iff _ _).mpr ⟨wide, high⟩
  rcases placement_overflowsIff wide.isNumber high.isNumber path with
    ⟨large, fails⟩ | ⟨small, fit, placed⟩
  · refine .inl ⟨large, ?_⟩
    rw [svg, svgOf, area, fails]
    rfl
  have digits := checkDigits_eq canvas
  have writable := Canvas.isWritable_iff wide.isNumber high.isNumber
  by_cases long : canvas.IsTooLong
  · have empty : path = [] := by
      by_contra edge
      exact small (long.isTooLargeFor edge)
    rw [if_neg fun written => writable.mp written long] at digits
    refine .inr (.inl ⟨empty, long, ?_⟩)
    rw [svg, svgOf, area, placed]
    simp only [bind, Except.bind, digits]
    rfl
  · rw [if_pos (writable.mpr long)] at digits
    refine .inr (.inr ⟨small, long, fit, placed, ?_⟩)
    rw [svg, svgOf, area, placed]
    simp only [bind, Except.bind, digits]
    rfl

/-- The document of a path with finite coordinates, on a canvas with an area, with a colour that has
legal characters.  Either a size of the canvas is too large for doubles, and the drawing fails; or
there is no path and a size has too many digits, and the drawing cannot be written.  Or a reader
finds one group, whose attributes have fixed names and which has the colour that was given, and in
it one path element for each run of the path, in order.  The data of each are a move to the start of
the run and a line to the end of each edge of it, so all lines together go on to the ends of all
edges of the path; each coordinate is rounded to four places. -/
theorem svg_reads_back (wide : canvas.width.IsPositive) (high : canvas.height.IsPositive)
    (stroke : IsReadable canvas.stroke.toList) (finite : ∀ p ∈ path.ends, p.IsFinite) :
    (canvas.IsTooLargeFor path ∧ svg canvas path = .error .overflow) ∨
      (path = [] ∧ canvas.IsTooLong ∧ svg canvas path = .error (.value .unwritable)) ∨
      ¬ canvas.IsTooLargeFor path ∧ ¬ canvas.IsTooLong ∧ ∃ text attributes data lines runs,
        svg canvas path = .ok text ∧
        Markup.read text = some (.node "svg"
          [("version", "1.1"), ("width", canvas.width.text), ("height", canvas.height.text),
            ("xmlns", svgSpace)]
          [.node "g" attributes (data.map fun d => .leaf "path" [("d", d)])]) ∧
        attributes.map Prod.fst = groupNames path ∧
        attributes.lookup "stroke" = some canvas.stroke ∧
        List.Forall₂ (fun d commands => readPathData d = some commands) data lines ∧
        List.Forall₂ (fun commands run => ∃ e, run.head? = some e ∧
          commands = .move (rounded e.start) :: run.map fun e => .line (rounded e.stop)) lines runs ∧
        path.polylines = runs.map Path.polylineOf ∧ runs.flatten = path ∧
        lines.flatten.filterMap PathCommand.lineEnd = path.map (fun e => rounded e.stop) ∧
        ∀ p ∈ path.ends, IsFourPlaces (Decimal.Binary64.value p.x) (rounded p).x ∧
          IsFourPlaces (Decimal.Binary64.value p.y) (rounded p).y := by
  refine (svg_cases wide high).imp_right <| .imp_right
    fun ⟨small, short, fit, placed, made⟩ => ⟨small, short, ?_⟩
  have read := Markup.read_document (isProper_svgElement wide.isNumber high.isNumber stroke
    (isVisible_placement placed) path.polylines)
  refine ⟨_, penAttributes canvas ++ fitAttributes fit, path.polylines.map polylineText,
    path.polylines.map lineCommands, path.runs tolerance, made, ?_, names_group placed, rfl,
    ?_, ?_, rfl, Path.flatten_runs tolerance path, ?_, fun p member =>
      isFourPlaces_rounded (finite p member)⟩
  · rw [read, svgElement, List.map_map]
    rfl
  · exact List.forall₂_map_right_iff.mpr (readPathData_polylines finite)
  · rw [Path.polylines, List.map_map, List.forall₂_map_left_iff, List.forall₂_same]
    intro run member
    cases run with
    | nil => exact absurd rfl (Path.ne_nil_of_mem_runs member)
    | cons e rest => exact ⟨e, rfl, lineCommands_polylineOf e rest⟩
  · rw [← List.flatMap_def, lineEnds_polylines]

/-- A colour with quotes and markup in it is read back from the document of two lines, which has two
path elements.  A canvas as wide as 1 and 400 zeros is too large for them, and one as wide as 1 and
5000 zeros cannot be written without a path. -/
theorem svg_reads_back_of_two_lines :
    let path : Path Float := [⟨⟨0, 0⟩, ⟨1, 0⟩⟩, ⟨⟨1, 0⟩, ⟨1, 1⟩⟩, ⟨⟨5, 5⟩, ⟨6, 6⟩⟩]
    let stroke := "\"/><g fill='&"
    let canvas (width : Int) : Canvas := ⟨.whole width, .whole 50, stroke, 0.2⟩
    (∃ (text : String) (attributes : List (String × String)) (data : List String),
      svg (canvas 100) path = .ok text ∧
        Markup.read text = some (.node "svg"
          [("version", "1.1"), ("width", "100"), ("height", "50"), ("xmlns", svgSpace)]
          [.node "g" attributes (data.map fun d => .leaf "path" [("d", d)])]) ∧
        attributes.lookup "stroke" = some stroke ∧ data.length = 2) ∧
      svg (canvas (10 ^ 400)) path = .error .overflow ∧
      svg (canvas (10 ^ 5000)) [] = .error (.value .unwritable) := by
  intro path stroke canvas
  have readable : IsReadable stroke.toList := isReadable_of_isVisible (by decide)
  have finite : ∀ p ∈ path.ends, p.x.isFinite = true ∧ p.y.isFinite = true := by decide +kernel
  have cut : path.polylines.length = 2 := by decide +kernel
  have wide {width : Int} (positive : 0 < width) : (canvas width).width.IsPositive :=
    congrArg Except.ok (decide_eq_false positive.not_ge)
  have high (width : Int) : (canvas width).height.IsPositive := rfl
  have power (digits : Nat) : (0 : Int) < 10 ^ digits := by positivity
  have edge : path ≠ [] := List.cons_ne_nil _ _
  have small : ¬ (canvas 100).IsTooLargeFor path := by
    have widthFits : ¬ (Size.whole 100).IsBeyond Decimal.Binary64.overflowBound :=
      not_le.mpr (by decide +kernel)
    have heightFits : ¬ (Size.whole 50).IsBeyond Decimal.Binary64.overflowBound :=
      not_le.mpr (by decide +kernel)
    rintro ⟨b, -, large | large⟩
    · exact widthFits large.isBeyond
    · exact heightFits large.isBeyond
  have large : (canvas (10 ^ 400)).IsTooLargeFor path := by
    have beyond : 2 * Decimal.Binary64.overflowBound ≤ ((10 : Int) ^ 400).natAbs := by
      decide +kernel
    exact ⟨_, rfl, .inl ((Size.isTooLargeFor_iff _ _).mpr (.inr beyond))⟩
  have long : (canvas (10 ^ 5000)).IsTooLong := by
    have beyond : 10 ^ Decimal.maxDigits ≤ ((10 : Int) ^ 5000).natAbs := by decide +kernel
    exact .inl beyond
  refine ⟨?_, ?_, ?_⟩
  · rcases svg_reads_back (wide (by decide)) (high 100) readable finite with
      ⟨tooLarge, -⟩ | ⟨empty, -⟩ | ⟨-, -, reads⟩
    · exact absurd tooLarge small
    · exact absurd empty edge
    · obtain ⟨text, attributes, data, lines, runs, made, read, -, colour, said, drawn,
        polylines, -⟩ := reads
      refine ⟨text, attributes, data, made, read, colour, ?_⟩
      rw [said.length_eq, drawn.length_eq, ← cut, polylines, List.length_map]
  · rcases svg_reads_back (wide (power _)) (high _) readable finite with
      ⟨-, fails⟩ | ⟨empty, -⟩ | ⟨fits, -⟩
    · exact fails
    · exact absurd empty edge
    · exact absurd large fits
  · have none : ∀ p ∈ Path.ends ([] : Path Float), p.IsFinite := nofun
    rcases svg_reads_back (wide (power _)) (high _) readable none with
      ⟨⟨b, bounds, -⟩, -⟩ | ⟨-, -, fails⟩ | ⟨-, short, -⟩
    · cases bounds
    · exact fails
    · exact absurd long short

end Drawing

end GrowthGrammar
