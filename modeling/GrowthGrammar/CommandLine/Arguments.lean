import GrowthGrammar.Text.DecimalDigit

/-!
# Arguments of a command

An argument is a plain word or names an option.  It names one if it begins with
a dash, unless it is a dash alone, a negative number or has a space in it.  A
long option may be cut short as long as no other one begins like that, and may be
followed by an equals sign and its value.  Several one-letter options may share a
dash, and the value of the last one may follow it directly.  After two dashes
alone everything is a word.  Two dashes as the value in the same argument are no
value: the option is then given without one.

`eventsOf` says what some arguments ask for, one event after the other.  Names
and values are matched up there; what an event means is the business of the
command.
-/

namespace GrowthGrammar.CommandLine

/-- A name of an option. -/
structure OptionName (κ : Type) where
  /-- The name with its dashes. -/
  name : List Char
  /-- The option. -/
  key : κ
  /-- The option takes a value. -/
  takesValue : Bool

/-- The value that stands in the same argument as a name. -/
inductive Attached
  /-- There is none. -/
  | nothing
  /-- The text directly after a one-letter name. -/
  | joined (text : List Char)
  /-- The text after an equals sign. -/
  | equals (text : List Char)

/-- What an argument is. -/
inductive Argument (κ : Type)
  /-- A plain word. -/
  | word (text : String)
  /-- An option, in all the ways it can be read. -/
  | named (readings : List (OptionName κ × Attached))
  /-- An option that is not known. -/
  | unknown
  /-- Two dashes alone. -/
  | separator

/-- What some arguments ask for. -/
inductive Event (κ : Type)
  /-- A plain word. -/
  | word (text : String)
  /-- An option without a value. -/
  | flag (key : κ)
  /-- An option that takes a value, with the value if it has one. -/
  | value (key : κ) (text : Option String)
  /-- An option that is not known. -/
  | unknown
  /-- Two dashes alone. -/
  | separator
  /-- An option that cannot be read or whose value is missing.  Nothing follows
  it. -/
  | misuse

variable {κ : Type}

/-! ## Kinds of arguments -/

/-- A text without a line feed at its end. -/
def dropLineFeed (cs : List Char) : List Char :=
  if cs.getLast? == some '\n' then cs.dropLast else cs

/-- The text looks like a negative number: digits, perhaps with a point before
the last of them.  A line feed at the end does not count. -/
def isNegativeNumber (cs : List Char) : Bool :=
  match (dropLineFeed cs).map Text.plainDigit with
  | '-' :: rest =>
    let fraction := rest.dropWhile Char.isDigit
    match fraction with
    | [] => !rest.isEmpty
    | '.' :: ds => !ds.isEmpty && ds.all Char.isDigit
    | _ => false
  | _ => false

/-- What stands before the first equals sign and what stands after it. -/
def splitEquals (cs : List Char) : List Char × Attached :=
  if cs.contains '=' then
    (cs.takeWhile (· != '='), .equals ((cs.dropWhile (· != '=')).drop 1))
  else (cs, .nothing)

/-- The options whose long name begins with a text. -/
def readLong (known : List (OptionName κ)) (cs : List Char) :
    List (OptionName κ × Attached) :=
  let (name, attached) := splitEquals cs
  (known.filter fun n => name.isPrefixOf n.name).map fun n => (n, attached)

/-- The option whose one-letter name a text begins with. -/
def readShort (known : List (OptionName κ)) (cs : List Char) :
    List (OptionName κ × Attached) :=
  (known.filter fun n => n.name == cs.take 2).map fun n => (n, .joined (cs.drop 2))

/-- The ways to read a text that begins with a dash and is more than that. -/
def readings (known : List (OptionName κ)) (cs : List Char) : List (OptionName κ × Attached) :=
  let (name, attached) := splitEquals cs
  match known.find? fun n => n.name == cs, known.find? fun n => n.name == name with
  | some n, _ => [(n, .nothing)]
  | none, some n => [(n, attached)]
  | none, none => if (cs.drop 1).head? == some '-' then readLong known cs else readShort known cs

/-- What an argument is. -/
def Argument.ofText (known : List (OptionName κ)) (text : String) : Argument κ :=
  let cs := text.toList
  if cs.length < 2 || cs.head? != some '-' then .word text
  else
    let found := readings known cs
    if !found.isEmpty then .named found
    else if isNegativeNumber cs || cs.contains ' ' then .word text
    else .unknown

/-- What some arguments are. -/
def argumentsOf (known : List (OptionName κ)) : List String → List (Argument κ)
  | [] => []
  | text :: rest =>
    if text == "--" then .separator :: rest.map .word
    else Argument.ofText known text :: argumentsOf known rest

/-! ## Events -/

/-- What one argument with options asks for. -/
inductive Cluster (κ : Type)
  /-- Some options without values. -/
  | flags (keys : List κ)
  /-- Some options without values, and one with its value. -/
  | valued (keys : List κ) (key : κ) (text : List Char)
  /-- Some options without values, and one whose value is the next argument. -/
  | wants (keys : List κ) (key : κ)
  /-- A value for an option without one, or a letter that is no option. -/
  | misuse

/-- An option after some others, with letters behind it: its value, or the names
of further options. -/
def Cluster.ofLetters (known : List (OptionName κ)) (keys : List κ) (n : OptionName κ) :
    List Char → Cluster κ
  | [] => if n.takesValue then .wants keys n.key else .flags (keys ++ [n.key])
  | c :: cs =>
    if n.takesValue then .valued keys n.key (c :: cs)
    else
      match known.find? fun m => m.name == ['-', c] with
      | none => .misuse
      | some m => ofLetters known (keys ++ [n.key]) m cs

/-- The name is a dash and a letter. -/
def OptionName.isShort (n : OptionName κ) : Bool := (n.name.drop 1).head? != some '-'

/-- What one option and its attached value ask for.  An equals sign behind a
letter without a value does not count. -/
def Cluster.ofReading (known : List (OptionName κ)) : OptionName κ × Attached → Cluster κ
  | (n, .nothing) => Cluster.ofLetters known [] n []
  | (n, .equals text) =>
    if n.takesValue then .valued [] n.key text
    else if n.isShort && !text.isEmpty then Cluster.ofLetters known [] n text
    else .misuse
  | (n, .joined text) => Cluster.ofLetters known [] n text

/-- The value that is written as a text in the argument of its option. -/
def attachedValue (text : List Char) : Option String :=
  if text == ['-', '-'] then none else some (String.ofList text)

/-- The events of some arguments.  `waiting` is the option whose value is the next
one. -/
def eventsFrom (known : List (OptionName κ)) (waiting : Option κ) :
    List (Argument κ) → List (Event κ)
  | [] => if waiting.isSome then [.misuse] else []
  | a :: rest =>
    match waiting, a with
    | some key, .word text => .value key (some text) :: eventsFrom known none rest
    | some _, _ => [.misuse]
    | none, .word text => .word text :: eventsFrom known none rest
    | none, .separator => .separator :: eventsFrom known none rest
    | none, .unknown => .unknown :: eventsFrom known none rest
    | none, .named [reading] =>
      match Cluster.ofReading known reading with
      | .flags keys => keys.map .flag ++ eventsFrom known none rest
      | .valued keys key text =>
        keys.map .flag ++ .value key (attachedValue text) :: eventsFrom known none rest
      | .wants keys key =>
        match rest with
        | .word _ :: _ => keys.map .flag ++ eventsFrom known (some key) rest
        | _ => [.misuse]
      | .misuse => [.misuse]
    | none, .named _ => [.misuse]

/-- The argument can be read as several options. -/
def Argument.isAmbiguous : Argument κ → Bool
  | .named (_ :: _ :: _) => true
  | _ => false

/-- What some arguments ask for.  If one of them can be read in several ways,
nothing is done at all. -/
def eventsOf (known : List (OptionName κ)) (arguments : List String) : List (Event κ) :=
  let arguments := argumentsOf known arguments
  if arguments.any Argument.isAmbiguous then [.misuse] else eventsFrom known none arguments

end GrowthGrammar.CommandLine
