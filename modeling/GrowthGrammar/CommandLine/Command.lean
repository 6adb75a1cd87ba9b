import GrowthGrammar.CommandLine.Arguments
import GrowthGrammar.Decimal.Reader
import GrowthGrammar.Drawing.Size
import GrowthGrammar.FilePath
import GrowthGrammar.Settings.Configuration

/-!
# Commands

The arguments of the program are some options, the name of a command and the
arguments of that command.

* `derive FILE -o OUTPUT [--width N] [--height N] [--format F]` derives a plant
  and writes the result in a format.
* `describe` lists the vocabulary of the turtle.

`Command.ofArguments` gives the command, or says that help is asked for or that
the arguments cannot be used.  Events count in order: what comes first, a call
for help or a mistake that can be seen at once, decides.  That a word is too many
or that something is missing is only seen at the end.
-/

namespace GrowthGrammar.CommandLine

/-- The forms of a result. -/
inductive Format
  /-- A drawing as a document. -/
  | svg
  /-- A drawing as a graph. -/
  | json
  /-- The derived word. -/
  | text
  /-- A drawing as an image. -/
  | png
  deriving DecidableEq, Repr

namespace Format

/-- The word for a format. -/
def word : Format → String
  | .svg => "svg"
  | .json => "json"
  | .text => "text"
  | .png => "png"

/-- All formats. -/
def all : List Format := [.svg, .json, .text, .png]

/-- The format of a word. -/
def ofWord? (w : String) : Option Format := all.find? fun f => f.word == w

/-- The suffix that files of a format have to have. -/
def suffix? : Format → Option String
  | .svg => some ".svg"
  | .png => some ".png"
  | _ => none

end Format

/-- What to derive and where to write the result. -/
structure Derivation where
  /-- The plant file. -/
  file : FilePath
  /-- The file to write, if the option for it has a value. -/
  output : Option FilePath
  /-- The width of the canvas. -/
  width : Size
  /-- The height of the canvas. -/
  height : Size
  /-- The form of the result, if the option for it has a value. -/
  format : Option Format

/-- What the program can do. -/
inductive Command
  /-- Derive a plant. -/
  | derive (derivation : Derivation)
  /-- List the vocabulary of the turtle. -/
  | describe

/-- A command and how much to say about it. -/
structure Request where
  /-- What to do. -/
  command : Command
  /-- Report every stage. -/
  verbose : Bool

/-- Why arguments are no request. -/
inductive Usage
  /-- Help is asked for. -/
  | help
  /-- They cannot be used. -/
  | misuse
  deriving DecidableEq, Repr

/-! ## Options -/

/-- The options in front of a command. -/
inductive ProgramOption
  /-- Ask for help. -/
  | help
  /-- Report every stage. -/
  | verbose
  deriving DecidableEq, Repr

/-- The options of a command. -/
inductive CommandOption
  /-- Ask for help. -/
  | help
  /-- The file to write. -/
  | output
  /-- The width of the canvas. -/
  | width
  /-- The height of the canvas. -/
  | height
  /-- The form of the result. -/
  | format
  deriving DecidableEq, Repr

/-- The names of the options in front of a command. -/
def programOptions : List (OptionName ProgramOption) := [
  ⟨"-h".toList, .help, false⟩, ⟨"--help".toList, .help, false⟩,
  ⟨"-v".toList, .verbose, false⟩, ⟨"--verbose".toList, .verbose, false⟩]

/-- The names of the options of a derivation. -/
def deriveOptions : List (OptionName CommandOption) := [
  ⟨"-h".toList, .help, false⟩, ⟨"--help".toList, .help, false⟩,
  ⟨"-o".toList, .output, true⟩, ⟨"--output".toList, .output, true⟩,
  ⟨"--width".toList, .width, true⟩, ⟨"--height".toList, .height, true⟩,
  ⟨"--format".toList, .format, true⟩]

/-- The names of the options of a description. -/
def describeOptions : List (OptionName CommandOption) := [
  ⟨"-h".toList, .help, false⟩, ⟨"--help".toList, .help, false⟩]

/-! ## Derivations -/

/-- What the events so far have given. -/
structure DeriveDraft where
  /-- The plant file. -/
  file : Option String
  /-- The file to write, which may be given without a value. -/
  output : Option (Option String)
  /-- The width of the canvas. -/
  width : Size
  /-- The height of the canvas. -/
  height : Size
  /-- The form of the result. -/
  format : Option Format
  /-- There was something that nothing is done with. -/
  extra : Bool

namespace DeriveDraft

/-- What holds before the first event. -/
def start : DeriveDraft where
  file := none
  output := none
  width := .whole Configuration.standard.width
  height := .whole Configuration.standard.height
  format := some .svg
  extra := false

/-- The size that the value of an option gives.  Without a value it is no
size. -/
def sizeOf : Option String → Except Usage Size
  | none => .ok (.other (.list []))
  | some text =>
    match Decimal.readInt text.toList with
    | some n => .ok (.whole n)
    | none => .error .misuse

/-- The format that the value of an option gives. -/
def formatOf : Option String → Except Usage (Option Format)
  | none => .ok none
  | some text =>
    match Format.ofWord? text with
    | some f => .ok (some f)
    | none => .error .misuse

/-- The draft after an option that takes a value. -/
def set (d : DeriveDraft) (key : CommandOption) (value : Option String) :
    Except Usage DeriveDraft :=
  match key with
  | .help => .error .help
  | .output => .ok { d with output := some value }
  | .width => (sizeOf value).map fun size => { d with width := size }
  | .height => (sizeOf value).map fun size => { d with height := size }
  | .format => (formatOf value).map fun format => { d with format := format }

/-- The draft after some events.  The first word is the plant file, and dashes
next to it are dropped. -/
def follow (d : DeriveDraft) : List (Event CommandOption) → Except Usage DeriveDraft
  | [] => .ok d
  | .misuse :: _ => .error .misuse
  | .flag _ :: _ => .error .help
  | .value key text :: rest => do follow (← d.set key text) rest
  | .unknown :: rest => follow { d with extra := true } rest
  | .separator :: .word text :: rest =>
    if d.file.isNone then follow { d with file := some text } rest
    else follow { d with extra := true } rest
  | .separator :: rest => follow { d with extra := true } rest
  | .word text :: .separator :: rest =>
    if d.file.isNone then follow { d with file := some text } rest
    else follow { d with extra := true } rest
  | .word text :: rest =>
    if d.file.isNone then follow { d with file := some text } rest
    else follow { d with extra := true } rest

/-- The derivation of a draft that is complete. -/
def finish (d : DeriveDraft) : Except Usage Derivation :=
  match d.file, d.output, d.extra with
  | some file, some output, false =>
    .ok ⟨FilePath.ofText file, output.map FilePath.ofText, d.width, d.height, d.format⟩
  | _, _, _ => .error .misuse

end DeriveDraft

/-- The derivation that some arguments ask for. -/
def Derivation.ofArguments (arguments : List String) : Except Usage Derivation := do
  (← DeriveDraft.start.follow (eventsOf deriveOptions arguments)).finish

/-! ## Requests -/

/-- Check the events of a description: nothing may be said but a call for
help. -/
def checkDescribe (extra : Bool) : List (Event CommandOption) → Except Usage Unit
  | [] => if extra then .error .misuse else .ok ()
  | .flag _ :: _ => .error .help
  | .misuse :: _ => .error .misuse
  | _ :: rest => checkDescribe true rest

/-- The command of a name with its arguments. -/
def Command.ofArguments (name : String) (arguments : List String) : Except Usage Command :=
  if name == "derive" then (Derivation.ofArguments arguments).map .derive
  else if name == "describe" then do
    checkDescribe false (eventsOf describeOptions arguments)
    return .describe
  else .error .misuse

/-- What stands in front of the name of the command. -/
structure Opening where
  /-- Report every stage. -/
  verbose : Bool
  /-- There was something that nothing is done with. -/
  extra : Bool

/-- What the events in front of the first word say. -/
def Opening.follow (o : Opening) : List (Event ProgramOption) → Except Usage Opening
  | .misuse :: _ => .error .misuse
  | .flag .help :: _ => .error .help
  | .flag .verbose :: rest => follow { o with verbose := true } rest
  | .unknown :: rest => follow { o with extra := true } rest
  | _ => .ok o

/-- The first word and the arguments behind it.  Two dashes alone may not stand in
front of it. -/
def splitCommand : List (Argument ProgramOption) → List String → Option (String × List String)
  | .word name :: _, _ :: rest => some (name, rest)
  | .separator :: _, _ => none
  | _ :: arguments, _ :: rest => splitCommand arguments rest
  | _, _ => none

/-- The request that some arguments make. -/
def Request.ofArguments (arguments : List String) : Except Usage Request := do
  let opening ← Opening.follow ⟨false, false⟩ (eventsOf programOptions arguments)
  match splitCommand (argumentsOf programOptions arguments) arguments with
  | none => throw .misuse
  | some (name, rest) =>
    let command ← Command.ofArguments name rest
    if opening.extra then throw .misuse
    return ⟨command, opening.verbose⟩

end GrowthGrammar.CommandLine
