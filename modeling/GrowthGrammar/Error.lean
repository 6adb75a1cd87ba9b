import GrowthGrammar.Lock
import GrowthGrammar.Rule.Written
import GrowthGrammar.Settings.Issue
import GrowthGrammar.Symbol
import GrowthGrammar.Text.Utf8

/-!
# Errors

Every failure of the library is a value of `Error`, which says what went wrong.
The wording of each is `Error.message`, and `Error.kind` sorts them into the
categories a caller can act on.

The last categories are for calls that make no sense: an operand of the wrong
type, a number too large for a double, an index outside its range.
-/

namespace GrowthGrammar

/-- The categories of errors. -/
inductive Error.Kind
  /-- A lock could not be had or was not held. -/
  | locking
  /-- A file could not be read or written. -/
  | io
  /-- A text has not the shape it should have. -/
  | parsing
  /-- A symbol is not of the table it is used with. -/
  | unknownSymbol
  /-- A branch is closed that was not opened. -/
  | stackUnderflow
  /-- Settings or weights are outside their range. -/
  | invalidSettings
  /-- A value that an operation is not defined for. -/
  | badValue
  /-- An operand of the wrong type. -/
  | wrongType
  /-- A number beyond every double. -/
  | overflow
  /-- A division by zero. -/
  | zeroDivision
  /-- A position outside a sequence. -/
  | outOfRange
  /-- A field that is not there. -/
  | missingKey
  /-- A value without the members it is asked for. -/
  | notRecord
  /-- A text that is no JSON document. -/
  | notJson
  /-- A document with too many levels. -/
  | tooDeep
  /-- A text that has no bytes. -/
  | notEncodable
  /-- Bytes that are no text. -/
  | notDecodable
  /-- A text whose instructions for the terminal do not fit together. -/
  | badMarkup
  deriving DecidableEq, Repr

/-- The word for a category in front of a message. -/
def Error.Kind.label : Error.Kind → String
  | .locking => "locking"
  | .io => "io"
  | .parsing => "parsing"
  | .unknownSymbol => "unknown_symbol"
  | .stackUnderflow => "stack_underflow"
  | .invalidSettings => "invalid_settings"
  | .badValue => "value"
  | .wrongType => "type"
  | .overflow => "overflow"
  | .zeroDivision => "zero_division"
  | .outOfRange => "index"
  | .missingKey => "key"
  | .notRecord => "record"
  | .notJson => "json"
  | .tooDeep => "depth"
  | .notEncodable => "encoding"
  | .notDecodable => "decoding"
  | .badMarkup => "markup"

/-! ## Causes -/

/-- Why the text of a plant is refused. -/
inductive PlantFault
  /-- It is blank. -/
  | noText
  /-- The initial word is given a second time. -/
  | secondInitial
  /-- A setting of an unknown name. -/
  | unknownSetting (key : String)
  /-- The value of a setting is no whole number. -/
  | notWhole (key value : String)
  /-- The value of a setting is no number. -/
  | notNumber (key value : String)
  /-- There is no rule. -/
  | noRules
  /-- There is no initial word. -/
  | noInitial
  deriving DecidableEq, Repr

/-- The wording of a fault. -/
def PlantFault.message : PlantFault → String
  | .noText => "plant text is empty"
  | .secondInitial => "the initial axiom is given twice"
  | .unknownSetting key => "unrecognised setting " ++ Text.quoted key
  | .notWhole key value => key ++ " expects a int, got " ++ Text.quoted value
  | .notNumber key value => key ++ " expects a float, got " ++ Text.quoted value
  | .noRules => "no productions have been supplied"
  | .noInitial => "no initial axiom has been supplied"

/-- Why a text is refused. -/
inductive ParseFault
  /-- It is no word or no rule. -/
  | written (fault : WrittenFault)
  /-- It is no plant. -/
  | plant (fault : PlantFault)
  /-- The predecessor of a rule is no symbol. -/
  | predecessorKind (shown : String)
  /-- A member of a part of a rule is no symbol. -/
  | memberKind (part shown : String)
  /-- A line of a plant is refused. -/
  | atLine (number : Nat) (fault : ParseFault)
  /-- The bytes of a plant file are not UTF-8. -/
  | notUtf8 (path : String) (fault : Text.Utf8Fault) (offset : Nat)

/-- The wording of a fault. -/
def ParseFault.message : ParseFault → String
  | .written fault => fault.message
  | .plant fault => fault.message
  | .predecessorKind shown => "predecessor must be a symbol, not " ++ shown
  | .memberKind part shown => part ++ " must hold symbols, found " ++ shown
  | .atLine number fault => "line " ++ toString number ++ ": " ++ fault.message
  | .notUtf8 path fault offset =>
    "plant file " ++ path ++ " is not valid UTF-8: " ++ fault.reason ++ " at byte "
      ++ toString offset

/-- Why a symbol is not of a table. -/
inductive SymbolFault
  /-- Its code is not in the table. -/
  | noSuchCode (symbol : Symbol)
  /-- Its code belongs to another name there. -/
  | otherName (symbol : Symbol) (here : String)
  /-- A symbol of a word is not in the table of its system. -/
  | atPosition (symbol : Symbol) (position : Nat)
  deriving DecidableEq, Repr

/-- A symbol as a message names it. -/
def SymbolFault.subject (symbol : Symbol) : String :=
  "symbol " ++ Text.quoted symbol.name ++ " (code " ++ toString symbol.code ++ ")"

/-- The wording of a fault. -/
def SymbolFault.message : SymbolFault → String
  | .noSuchCode symbol => subject symbol ++ " is not in this table"
  | .otherName symbol here =>
    subject symbol ++ " belongs to another table; here code " ++ toString symbol.code ++ " is "
      ++ Text.quoted here
  | .atPosition symbol position =>
    "symbol " ++ Text.quoted symbol.name ++ " at position " ++ toString position
      ++ " is not part of this system's table"

/-- Why settings are refused. -/
inductive SettingsFault
  /-- Some fields are wrong. -/
  | fields (subject : String) (issues : List Issue)
  /-- A weight is no number. -/
  | weightKind (shown : String)
  /-- A weight is negative or not finite. -/
  | weightRange (weight : Float)
  /-- The rules to choose from have no weight at all. -/
  | noWeight (predecessor : String)
  /-- A derivation of fewer than no steps. -/
  | negativeSteps (shown : String)
  /-- A family without a name. -/
  | noFamilyName
  /-- A name that the family describes already. -/
  | describedTwice (name family : String)
  /-- A family name that is taken. -/
  | registeredTwice (family : String)
  /-- A family name that is not registered. -/
  | notRegistered (family : String)
  /-- A heading that is not finite. -/
  | headingNotFinite (shown : String)
  /-- A heading too short to have a direction. -/
  | headingTooShort (shown : String)
  /-- A canvas without area. -/
  | canvasSize (width height : String)

/-- The wording of a fault. -/
def SettingsFault.message : SettingsFault → String
  | .fields subject issues =>
    "invalid " ++ subject ++ ": " ++ issuesHeadline subject issues
      ++ String.join (issues.map Issue.report)
  | .weightKind shown => "weight must be a number, not " ++ shown
  | .weightRange weight =>
    "weight must be finite and non-negative, got " ++ Decimal.exact weight
  | .noWeight predecessor =>
    "alternatives for " ++ Text.quoted predecessor ++ " have a total weight of zero"
  | .negativeSteps shown => "iterations must be non-negative, got " ++ shown
  | .noFamilyName => "family name cannot be empty"
  | .describedTwice name family =>
    "symbol " ++ Text.quoted name ++ " is already described in family " ++ Text.quoted family
  | .registeredTwice family =>
    "family " ++ Text.quoted family ++ " has already been registered"
  | .notRegistered family => "family " ++ Text.quoted family ++ " has not been registered"
  | .headingNotFinite shown => "start heading " ++ shown ++ " is not finite"
  | .headingTooShort shown => "start heading " ++ shown ++ " has no direction"
  | .canvasSize width height =>
    "canvas must have a positive size, got " ++ width ++ "x" ++ height

/-- Why the system refuses to open a file. -/
inductive FileFault
  /-- There is no such file, or no directory for it. -/
  | notFound
  /-- The path names a directory. -/
  | isDirectory
  /-- A part of the path is a file. -/
  | notDirectory
  /-- A name on the path is too long. -/
  | nameTooLong
  /-- What was asked for is not supported. -/
  | unsupported
  deriving DecidableEq, Repr

/-- The wording of a fault. -/
def FileFault.message : FileFault → String
  | .notFound => "No such file or directory"
  | .isDirectory => "Is a directory"
  | .notDirectory => "Not a directory"
  | .nameTooLong => "File name too long"
  | .unsupported => "Operation not supported"

/-- What was to be done with a file. -/
inductive FileUse
  /-- Read a plant. -/
  | readPlant
  /-- Read a graph. -/
  | readGraph
  /-- Write a graph. -/
  | writeGraph
  /-- Write a result. -/
  | writeResult
  deriving DecidableEq, Repr

/-- The start of a message about a use. -/
def FileUse.failure : FileUse → String
  | .readPlant => "unable to read plant file "
  | .readGraph => "unable to read graph from "
  | .writeGraph => "unable to write graph to "
  | .writeResult => "unable to write "

/-- Why a value is one that an operation is not defined for. -/
inductive ValueFault
  /-- A vector too short to be given unit length. -/
  | zeroLength
  /-- An angle that is infinite. -/
  | infiniteAngle
  /-- A slice that does not move. -/
  | zeroStride
  /-- A seed below zero. -/
  | negativeSeed
  /-- A word that names no tie-break. -/
  | noTieBreak (shown : String)
  /-- A word that names no action. -/
  | noAction (shown : String)
  /-- A plot without finite limits. -/
  | axisLimits
  /-- A path whose last part is no file name. -/
  | noFileName (path : String)
  /-- A node without a label. -/
  | noLabel
  /-- A polyline without a point. -/
  | noPoint
  /-- A text that writes no number. -/
  | noNumber (shown : String)
  /-- A text where the width of lines should be. -/
  | textWidth
  /-- A text of a whole number with too many digits. -/
  | digitCount (count : Nat)
  /-- A whole number of too many digits to be written. -/
  | unwritable
  /-- A text for the system that holds the character zero. -/
  | zeroCharacter
  /-- A name that holds the sign between names and values. -/
  | surroundingName
  deriving DecidableEq, Repr

/-- The wording of a fault. -/
def ValueFault.message : ValueFault → String
  | .zeroLength => "cannot normalise a zero-length vector"
  | .infiniteAngle => "math domain error"
  | .zeroStride => "slice step cannot be zero"
  | .negativeSeed => "expected non-negative integer"
  | .noTieBreak shown => shown ++ " is not a valid TieBreak"
  | .noAction shown => shown ++ " is not a valid TurtleAction"
  | .axisLimits => "Axis limits cannot be NaN or Inf"
  | .noFileName path => "PosixPath(" ++ Text.quoted path ++ ") has an empty name"
  | .noLabel => "None cannot be a node"
  | .noPoint => "not enough values to unpack (expected at least 1, got 0)"
  | .noNumber shown => "could not convert string to float: " ++ shown
  | .textWidth => "Unknown format code 'f' for object of type 'str'"
  | .digitCount count =>
    "Exceeds the limit (" ++ toString Decimal.maxDigits
      ++ " digits) for integer string conversion: value has " ++ toString count
      ++ " digits; use sys.set_int_max_str_digits() to increase the limit"
  | .unwritable =>
    "Exceeds the limit (" ++ toString Decimal.maxDigits
      ++ " digits) for integer string conversion"
      ++ "; use sys.set_int_max_str_digits() to increase the limit"
  | .zeroCharacter => "embedded null byte"
  | .surroundingName => "illegal environment variable name"

/-! ## Errors -/

/-- Everything that can go wrong. -/
inductive Error
  /-- A lock refused a call. -/
  | lock (fault : LockFault)
  /-- A file could not be used. -/
  | file (use : FileUse) (path : String) (fault : FileFault)
  /-- A text is refused. -/
  | parse (fault : ParseFault)
  /-- A symbol is not of the table it is used with. -/
  | symbol (fault : SymbolFault)
  /-- The symbol at a position closes a branch that was not opened. -/
  | underflow (name : String) (position : Nat)
  /-- Settings are refused. -/
  | settings (fault : SettingsFault)
  /-- An operation is not defined for a value. -/
  | value (fault : ValueFault)
  /-- An operand has the wrong type. -/
  | wrongType
  /-- A number is beyond every double. -/
  | overflow
  /-- A division by zero. -/
  | zeroDivision
  /-- A position is outside a sequence. -/
  | outOfRange
  /-- A field is not there. -/
  | missingKey
  /-- A value has not the members it is asked for. -/
  | notRecord
  /-- A text is no JSON document. -/
  | notJson
  /-- A document has too many levels. -/
  | tooDeep
  /-- A text has no bytes. -/
  | notEncodable
  /-- The bytes of a document are no text. -/
  | notDecodable
  /-- A text ends a style that it has not begun. -/
  | strayEnd

namespace Error

/-- The category of an error. -/
def kind : Error → Error.Kind
  | .lock .noSeconds => .wrongType
  | .lock .tooLong => .overflow
  | .lock _ => .locking
  | .file .. => .io
  | .parse _ => .parsing
  | .symbol _ => .unknownSymbol
  | .underflow .. => .stackUnderflow
  | .settings _ => .invalidSettings
  | .value _ => .badValue
  | .wrongType => .wrongType
  | .overflow => .overflow
  | .zeroDivision => .zeroDivision
  | .outOfRange => .outOfRange
  | .missingKey => .missingKey
  | .notRecord => .notRecord
  | .notJson => .notJson
  | .tooDeep => .tooDeep
  | .notEncodable => .notEncodable
  | .notDecodable => .notDecodable
  | .strayEnd => .badMarkup

/-- The wording of an error. -/
def message : Error → String
  | .lock fault => fault.message
  | .file use path fault => use.failure ++ path ++ ": " ++ fault.message
  | .parse fault => fault.message
  | .symbol fault => fault.message
  | .underflow name position =>
    "unmatched branch close " ++ Text.quoted name ++ " at position " ++ toString position
  | .settings fault => fault.message
  | .value fault => fault.message
  | .wrongType => "an operand has the wrong type"
  | .overflow => "a number is too large for a double"
  | .zeroDivision => "division by zero"
  | .outOfRange => "position out of range"
  | .missingKey => "a field is missing"
  | .notRecord => "the value has no such member"
  | .notJson => "the text is no JSON document"
  | .tooDeep => "the document has too many levels"
  | .notEncodable => "the text has a character that has no bytes"
  | .notDecodable => "the bytes are not UTF-8"
  | .strayEnd => "the text ends a style that was not begun"

end Error

namespace Datum

/-- The error for a datum, whose message shows it. -/
def refused (d : Datum) (error : String → Error) : Error :=
  if d.isWritable then error d.shown else .value .unwritable

/-- A datum as it is written alone. -/
def written (d : Datum) : Except Error String :=
  if d.isWritable then .ok d.plain else .error (.value .unwritable)

end Datum

/-- A computation on a state.  The state keeps what happened before an error. -/
abbrev Step (σ : Type) := ExceptT Error (StateM σ)

namespace Step

/-- The outcome of a computation and the state after it. -/
def runFrom {σ α : Type} (step : Step σ α) (s : σ) : Except Error α × σ :=
  StateT.run (ExceptT.run step) s

/-- A computation from its outcome and the state after it. -/
def ofRun {σ α : Type} (f : σ → Except Error α × σ) : Step σ α :=
  ExceptT.mk (StateT.mk fun s => pure (f s))

/-- A computation that does not change the state. -/
def look {σ α : Type} (f : σ → Except Error α) : Step σ α :=
  ofRun fun s => (f s, s)

/-- A computation whose errors are replaced. -/
def mapError {σ α : Type} (f : Error → Error) (step : Step σ α) : Step σ α :=
  ofRun fun s =>
    let (outcome, s) := step.runFrom s
    (outcome.mapError f, s)

/-- A computation on a part of the state. -/
def on {σ τ α : Type} (part : σ → τ) (put : τ → σ → σ) (step : Step τ α) : Step σ α :=
  ofRun fun s =>
    let (outcome, t) := step.runFrom (part s)
    (outcome, put t s)

end Step

end GrowthGrammar
