/-!
# Issues of settings

Settings are checked field by field, and every field that is wrong is reported.
An `Issue` is the place of such a field and its `Flaw`.
-/

namespace GrowthGrammar

/-- What is wrong with the value of a field. -/
inductive Flaw
  /-- A number with a fraction for a whole number. -/
  | fraction
  /-- A text that writes no whole number. -/
  | wholeText
  /-- A number or a text too large for a whole number. -/
  | wholeSize
  /-- A value of another kind for a whole number. -/
  | wholeKind
  /-- A text that writes no number. -/
  | numberText
  /-- A value of another kind for a number. -/
  | numberKind
  /-- A value of another kind for a text. -/
  | textKind
  /-- A text with half a character in it. -/
  | textUnits
  /-- A number that is not finite. -/
  | notFinite
  /-- A number below its least value. -/
  | belowLeast
  /-- A number that is not above its bound. -/
  | notAbove
  /-- None of the values that may be chosen. -/
  | choice
  /-- A value of another kind for a table of named values. -/
  | tableKind
  /-- A value of another kind for a pair of coordinates. -/
  | pairKind
  /-- A member that is not there. -/
  | missing
  /-- A value that a rule of the field refuses, in words. -/
  | refused (reason : String)
  deriving DecidableEq, Repr

/-- The code of a flaw in a report. -/
def Flaw.code : Flaw → String
  | .fraction => "int_from_float"
  | .wholeText => "int_parsing"
  | .wholeSize => "int_parsing_size"
  | .wholeKind => "int_type"
  | .numberText => "float_parsing"
  | .numberKind => "float_type"
  | .textKind => "string_type"
  | .textUnits => "string_unicode"
  | .notFinite => "finite_number"
  | .belowLeast => "greater_than_equal"
  | .notAbove => "greater_than"
  | .choice => "enum"
  | .tableKind => "dict_type"
  | .pairKind => "dataclass_type"
  | .missing => "missing"
  | .refused _ => "value_error"

/-- A flaw and the field it is in, from the outside in. -/
structure Issue where
  /-- The field and the members inside it. -/
  place : List String
  /-- What is wrong with it. -/
  flaw : Flaw
  deriving DecidableEq, Repr

/-- The headline over the issues of some settings. -/
def issuesHeadline (subject : String) (issues : List Issue) : String :=
  toString issues.length ++ " validation error" ++ (if issues.length = 1 then "" else "s")
    ++ " for " ++ subject

/-- One issue on lines of its own. -/
def Issue.report (issue : Issue) : String :=
  "\n" ++ ".".intercalate issue.place ++ "\n  "
    ++ (match issue.flaw with
      | .refused reason => reason
      | flaw => flaw.code)

end GrowthGrammar
