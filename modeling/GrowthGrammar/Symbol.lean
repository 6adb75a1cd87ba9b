import GrowthGrammar.Datum

/-!
# Symbols and words

A symbol is a name together with the code a vocabulary gave it.  Symbols are
told apart by their codes alone: two symbols of one code are the same to a rule,
whatever their names are.  A code may be any whole number, since a symbol can
also be made without a vocabulary.

A word is a list of symbols.  Its text has one space between names.
-/

namespace GrowthGrammar

/-- A name and its code. -/
structure Symbol where
  /-- The code, by which symbols are compared. -/
  code : Int
  /-- The name, by which they are shown. -/
  name : String
  deriving DecidableEq, Repr

/-- The two symbols have one code. -/
def Symbol.same (a b : Symbol) : Bool := a.code == b.code

/-- A sequence of symbols. -/
abbrev Word := List Symbol

namespace Word

/-- The codes of a word. -/
def codes (w : Word) : List Int := w.map Symbol.code

/-- The names of a word. -/
def names (w : Word) : List String := w.map Symbol.name

/-- The text of a word: its names with one space between them. -/
def text (w : Word) : String := " ".intercalate (names w)

/-- A word as a message shows it. -/
def shown (w : Word) : String := "ProductionString(" ++ Text.quoted (text w) ++ ")"

/-- The two words agree symbol by symbol. -/
def same (v w : Word) : Bool := codes v == codes w

/-- The first word ends the second one. -/
def isEndOf (v w : Word) : Bool := (codes v).isSuffixOf (codes w)

/-- The first word begins the second one. -/
def isStartOf (v w : Word) : Bool := (codes v).isPrefixOf (codes w)

end Word

end GrowthGrammar
