import GrowthGrammar.Drawing.Svg
import GrowthGrammar.Proofs.Drawing.Ascii
import GrowthGrammar.Proofs.Drawing.Coordinate
import GrowthGrammar.Proofs.Plane.Bounds
import GrowthGrammar.Proofs.Text.Tokens

/-!
# Reading the data of a line

The data of a path element are commands, each of which is a letter and a point, with spaces between
the numbers.  The text of a finite coordinate has no blank (`isToken_coordinate`), so cutting the
data at blanks gives each command back as two tokens (`polylineText_eq`).

Main statement: the data of a line with finite coordinates are read as a move to its first point and
lines to the others, each coordinate rounded to four places (`readPathData_polylineText`).
-/

namespace GrowthGrammar.Drawing

open Decimal
open Text (IsToken spaced spaced_append spaced_cons tokens)

/-! ## Commands -/

/-- A command of path data. -/
inductive PathCommand
  /-- Begin a line at a point. -/
  | move (p : Point ℚ)
  /-- Go on to a point. -/
  | line (p : Point ℚ)

/-- The point that a line goes on to, if the command does so. -/
def PathCommand.lineEnd : PathCommand → Option (Point ℚ)
  | .move _ => none
  | .line p => some p

/-- The command that two tokens say: the first one has its letter in front. -/
def readCommand : List Char → List Char → Option PathCommand
  | [], _ => none
  | letter :: first, second =>
    match said first, said second with
    | some x, some y =>
      if letter == 'M' then some (.move ⟨x, y⟩)
      else if letter == 'L' then some (.line ⟨x, y⟩)
      else none
    | _, _ => none

/-- The commands that some tokens say, two by two. -/
def readCommands : List (List Char) → Option (List PathCommand)
  | [] => some []
  | [_] => none
  | first :: second :: rest =>
    match readCommand first second, readCommands rest with
    | some c, some more => some (c :: more)
    | _, _ => none

/-- The commands of path data. -/
def readPathData (data : String) : Option (List PathCommand) :=
  readCommands (tokens data.toList)

/-! ## Written points -/

/-- The point with both coordinates rounded to the places that are written. -/
def rounded (p : Point Float) : Point ℚ := ⟨printed p.x, printed p.y⟩

/-- The commands of a polyline, with rounded points. -/
def lineCommands : List (Point Float) → List PathCommand
  | [] => []
  | p :: rest => .move (rounded p) :: rest.map fun q => .line (rounded q)

theorem coordinate_ne_nil (x : Float) : coordinate x ≠ [] := by
  rw [coordinate, trimDecimal]
  split
  · exact List.cons_ne_nil _ _
  case isFalse some =>
    intro none
    simp [none] at some

/-- The text of a finite coordinate has no blank. -/
theorem isToken_coordinate {x : Float} (finite : x.isFinite = true) : IsToken (coordinate x) := by
  obtain ⟨d, decoded⟩ := Binary64.exists_decode finite
  obtain ⟨whole, fraction, units, front, behind, -⟩ := fixedUnits_eq places (unitsOf places d)
  have chars : ∀ c ∈ whole ++ '.' :: fraction, c ∈ numeralChars := by
    refine List.forall_mem_append.mpr ⟨fun c member => ?_, List.forall_mem_cons.mpr
      ⟨by decide, fun c member => ?_⟩⟩
    · exact mem_numeralChars_of_isDigit (front.digits c member)
    · exact mem_numeralChars_of_isDigit (behind c member)
  have text : fixed places x = signed d.negative (whole ++ '.' :: fraction) := by
    simp only [fixed, decoded, units]
  have fixedChars : ∀ c ∈ '0' :: fixed places x, c ∈ numeralChars := by
    rw [text]
    exact List.forall_mem_cons.mpr ⟨by decide, mem_numeralChars_of_mem_signed chars _⟩
  exact ⟨coordinate_ne_nil x, fun c member =>
    isBlank_of_mem_numeralChars (fixedChars c (coordinate_subset x member))⟩

theorem isToken_cons_coordinate {letter : Char} (solid : Text.isBlank letter = false) {x : Float}
    (finite : x.isFinite = true) : IsToken (letter :: coordinate x) :=
  ⟨List.cons_ne_nil _ _, List.forall_mem_cons.mpr ⟨solid, (isToken_coordinate finite).solid⟩⟩

/-! ## Lines -/

/-- The two tokens of a command. -/
def commandTokens (letter : Char) (p : Point Float) : List (List Char) :=
  [letter :: coordinate p.x, coordinate p.y]

theorem spaced_commands (letter : Char) (points : List (Point Float)) :
    spaced (points.map (command letter)) = spaced (points.flatMap (commandTokens letter)) := by
  induction points with
  | nil => rfl
  | cons p rest ih =>
    rw [List.map_cons, List.flatMap_cons, spaced_cons, ih, spaced_append]
    simp [commandTokens, command]

section

variable {p : Point Float} {points : List (Point Float)}

theorem isToken_of_mem_commandTokens {letter : Char} (solid : Text.isBlank letter = false)
    (finite : p.IsFinite) : ∀ t ∈ commandTokens letter p, IsToken t :=
  List.forall_mem_cons.mpr ⟨isToken_cons_coordinate solid finite.1,
    List.forall_mem_singleton.mpr (isToken_coordinate finite.2)⟩

/-- The data of a line with finite coordinates are cut into the tokens of its commands. -/
theorem tokens_polylineText (finite : ∀ q ∈ p :: points, q.IsFinite) :
    tokens (polylineText (p :: points)).toList =
      commandTokens 'M' p ++ points.flatMap (commandTokens 'L') := by
  obtain ⟨here, later⟩ := List.forall_mem_cons.mp finite
  have letterM : Text.isBlank 'M' = false := by decide
  have letterL : Text.isBlank 'L' = false := by decide
  have others : ∀ t ∈ coordinate p.y :: points.flatMap (commandTokens 'L'), IsToken t := by
    refine List.forall_mem_cons.mpr ⟨isToken_coordinate here.2, fun t member => ?_⟩
    obtain ⟨q, inside, found⟩ := List.mem_flatMap.mp member
    exact isToken_of_mem_commandTokens letterL (later q inside) t found
  have text : (polylineText (p :: points)).toList = ('M' :: coordinate p.x) ++
      spaced (coordinate p.y :: points.flatMap (commandTokens 'L')) ++ [] := by
    rw [polylineText, String.toList_ofList, polylineCommands, Text.intercalate_cons,
      spaced_commands, spaced_cons, command]
    simp
  rw [text, Text.tokens_append_spaced (isToken_cons_coordinate letterM here.1) others
    Text.startsBlank_nil]
  simp [commandTokens]

theorem readCommand_commandTokens (finite : p.IsFinite) :
    readCommand ('M' :: coordinate p.x) (coordinate p.y) = some (.move (rounded p)) ∧
      readCommand ('L' :: coordinate p.x) (coordinate p.y) = some (.line (rounded p)) := by
  constructor <;> (rw [readCommand, said_coordinate finite.1, said_coordinate finite.2]; rfl)

theorem readCommands_lines (finite : ∀ q ∈ points, q.IsFinite) :
    readCommands (points.flatMap (commandTokens 'L')) =
      some (points.map fun q => .line (rounded q)) := by
  induction points with
  | nil => rfl
  | cons q rest ih =>
    obtain ⟨here, later⟩ := List.forall_mem_cons.mp finite
    rw [List.flatMap_cons, commandTokens, List.cons_append, List.cons_append, List.nil_append,
      readCommands, (readCommand_commandTokens here).2, ih later, List.map_cons]

/-- The data of a line with finite coordinates are read as a move to its first point and lines to
the others. -/
theorem readPathData_polylineText (finite : ∀ q ∈ p :: points, q.IsFinite) :
    readPathData (polylineText (p :: points)) = some (lineCommands (p :: points)) := by
  obtain ⟨here, later⟩ := List.forall_mem_cons.mp finite
  rw [readPathData, tokens_polylineText finite, commandTokens, List.cons_append, List.cons_append,
    List.nil_append, readCommands, (readCommand_commandTokens here).1, readCommands_lines later]
  rfl

/-- A point that is written with finite coordinates is rounded to four places. -/
theorem isFourPlaces_rounded (finite : p.IsFinite) :
    IsFourPlaces (Binary64.value p.x) (rounded p).x ∧
      IsFourPlaces (Binary64.value p.y) (rounded p).y :=
  ⟨isFourPlaces_printed finite.1, isFourPlaces_printed finite.2⟩

end

end GrowthGrammar.Drawing
