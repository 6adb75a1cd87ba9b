import GrowthGrammar.Rule.Candidates
import GrowthGrammar.Settings.Field
import GrowthGrammar.Text.Lower

/-!
# Configuration

The defaults of the library can be set by named texts from the surroundings of a
program.  A name is a fixed beginning and the name of a field, in any case; of
two that differ in case only the later one counts.  All other names are
ignored.

The surroundings hold bytes that end at the first zero, so neither a name nor a
text may have a zero in it, and a name may not have an equals sign.
-/

namespace GrowthGrammar

/-- The defaults of the library. -/
structure Configuration where
  /-- Seconds to wait for a lock, nothing to wait without end. -/
  lockTimeout : Option Float
  /-- The number of passes of a derivation. -/
  iterations : Nat
  /-- The choice among rules of one specificity. -/
  tieBreak : TieBreak
  /-- The width of a canvas. -/
  width : Int
  /-- The height of a canvas. -/
  height : Int
  /-- The colour of lines. -/
  stroke : String
  /-- The width of lines. -/
  strokeWidth : Float

namespace Configuration

/-- What holds when nothing is set. -/
def standard : Configuration where
  lockTimeout := some 5.0
  iterations := 5
  tieBreak := .pool
  width := 500
  height := 500
  stroke := "black"
  strokeWidth := 0.2

/-- The timeout of locks that name none. -/
def timeout (c : Configuration) : Timeout :=
  match c.lockTimeout with
  | none => .forever
  | some x => .real x

/-- The beginning of the names of fields. -/
def opening : String := "lsystems_"

/-- A text that the surroundings can hold. -/
def heldText (text : String) : Except Error Unit :=
  if Text.hasLooseHalf text.toList then .error .notEncodable else .ok ()

/-- A name and its text, if the surroundings can hold them. -/
def heldPair (name : String) : Datum → Except Error (String × String)
  | .text value => do
    heldText name
    heldText value
    if name.contains '\x00' || value.contains '\x00' then throw (.value .zeroCharacter)
    if name.contains '=' then throw (.value .surroundingName)
    return (Text.nameForm name, Text.nameForm value)
  | _ => do
    heldText name
    throw .wrongType

/-- The named texts that may be fields, by the names of fields. -/
def fieldsOf (surroundings : List (String × String)) : List (String × Datum) :=
  surroundings.foldl
    (fun fields (name, value) =>
      let name := name.map Text.lower
      if name.startsWith opening then
        Datum.setField (String.ofList (name.toList.drop opening.length)) (.text value) fields
      else fields)
    []

/-- The configuration that some named texts set. -/
def ofSurroundings (surroundings : List (String × String)) : Settings.Checked Configuration :=
  let fields := fieldsOf surroundings
  let lockTimeout := Settings.field fields "lock_timeout" standard.lockTimeout
    (Settings.optional fun d => do Settings.nonNegative (← Settings.number d))
  let iterations := Settings.field fields "default_iterations" standard.iterations
    fun d => do Settings.natural (← Settings.whole d)
  let tieBreak := Settings.field fields "tie_break" standard.tieBreak
    (Settings.choice TieBreak.ofDatum)
  let width := Settings.field fields "svg_width" standard.width
    fun d => do Settings.positiveWhole (← Settings.whole d)
  let height := Settings.field fields "svg_height" standard.height
    fun d => do Settings.positiveWhole (← Settings.whole d)
  let stroke := Settings.field fields "svg_stroke" standard.stroke Settings.text
  let strokeWidth := Settings.field fields "svg_stroke_width" standard.strokeWidth
    fun d => do Settings.positive (← Settings.number d)
  (Settings.both lockTimeout (Settings.both iterations (Settings.both tieBreak
    (Settings.both width (Settings.both height (Settings.both stroke strokeWidth)))))).map
    fun (lockTimeout, iterations, tieBreak, width, height, stroke, strokeWidth) =>
      { lockTimeout, iterations, tieBreak, width, height, stroke, strokeWidth }

/-- The configuration that some named data set, if the surroundings can hold
them. -/
def ofNamed (named : List (String × Datum)) : Except Error (Settings.Checked Configuration) :=
  (named.mapM fun (name, d) => heldPair name d).map ofSurroundings

end Configuration

end GrowthGrammar
