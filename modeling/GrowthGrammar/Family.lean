import GrowthGrammar.Vocabulary

/-!
# Families

A family is a named vocabulary for several systems: descriptions of the symbols
that an interpretation understands, beside the table that all members share.
Describing a name adds its description first and then enters it, so that a table
that cannot be written to leaves a description without a code.

`Family.turtle` is the vocabulary of turtle drawings.
-/

namespace GrowthGrammar

/-- How a described symbol is meant to be used. -/
inductive SymbolUse
  /-- It is not replaced. -/
  | terminal
  /-- It is expected as a predecessor. -/
  | production
  deriving DecidableEq, Repr

/-- The word for a use. -/
def SymbolUse.word : SymbolUse → String
  | .terminal => "terminal"
  | .production => "production"

/-- What a name is for. -/
structure Description where
  /-- The name. -/
  name : String
  /-- How it is used. -/
  use : SymbolUse
  /-- In words. -/
  words : Option String
  deriving DecidableEq, Repr

/-- A name and some descriptions. -/
structure Family where
  /-- The name of the family. -/
  name : String
  /-- The descriptions in the order they were given. -/
  descriptions : List Description
  deriving DecidableEq, Repr

namespace Family

/-- A family without descriptions.  Its name must not be blank. -/
def ofName (name : String) : Except Error Family :=
  if Text.isNonBlank name.toList then .ok ⟨name, []⟩ else .error (.settings .noFamilyName)

/-- The family describes the name. -/
def describes (f : Family) (name : String) : Bool :=
  f.descriptions.any fun d => d.name == name

/-- The descriptions of one use. -/
def ofUse (f : Family) (use : SymbolUse) : List Description :=
  f.descriptions.filter fun d => d.use == use

/-- Describe a name and enter it. -/
def describe (name : Datum) (use : SymbolUse) (words : Option String) :
    Step (Family × NameTable) Unit := do
  match Name.ofDatum name with
  | .error fault => throw (.parse (.written (.name fault)))
  | .ok name =>
    let family := (← get).1
    if family.describes name then
      throw (.settings (.describedTwice name family.name))
    else
      modify fun (f, t) => ({ f with descriptions := f.descriptions ++ [⟨name, use, words⟩] }, t)
      let _ ← Step.on Prod.snd (fun t p => (p.1, t)) (NameTable.enter name)

/-- Describe some names in order. -/
def describeAll : List Description → Step (Family × NameTable) Unit
  | [] => return ()
  | d :: rest => do
    describe (.text d.name) d.use d.words
    describeAll rest

/-- The name of the turtle vocabulary. -/
def turtleName : String := "ABOP"

/-- The vocabulary of turtle drawings. -/
def turtle : List Description := [
  ⟨"[", .terminal, some "Start a branch"⟩,
  ⟨"]", .terminal, some "Finish a branch"⟩,
  ⟨"+", .terminal, some "Turn the turtle left by delta"⟩,
  ⟨"-", .terminal, some "Turn the turtle right by delta"⟩,
  ⟨"F", .production, some "Move forward, drawing a line"⟩,
  ⟨"f", .production, some "Move forward without drawing"⟩,
  ⟨"Forward", .production, some "Move forward, drawing a line"⟩,
  ⟨"Move", .production, some "Move forward without drawing"⟩,
  ⟨"X", .production, some "A growth point for the plant or branch"⟩]

end Family

end GrowthGrammar
