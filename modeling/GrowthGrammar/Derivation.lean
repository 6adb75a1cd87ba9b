import GrowthGrammar.Choice
import GrowthGrammar.Random.Generator
import GrowthGrammar.RuleStore

/-!
# Derivation

A pass replaces every symbol of a word at once: a rule sees the symbols of the
word as it was, never what an earlier symbol of the same pass has become.  A
symbol without a candidate stays.  One candidate is taken as it is, and among
several a draw chooses by weight, so a pass draws once for each symbol that has
more than one candidate, from left to right.

In a draft, what is no symbol stays where it is, provided that it is a key.

A derivation is a number of passes with one generator.  Draws that were made
before an error stay made.
-/

namespace GrowthGrammar

open GrowthGrammar.Random (Generator)

/-- A computation that draws. -/
abbrev Draws := Step Generator

namespace Derivation

/-- The next draw. -/
def draw : Draws Float :=
  Step.ofRun fun g =>
    let (u, g) := g.draw
    (.ok u, g)

/-- An answer of a rule rulebook. -/
def ask {α : Type} (answer : Except Error α) : Draws α :=
  Step.ofRun fun g => (answer, g)

/-- One of the rules `first` and `rest`, with a chance in proportion to its
weight. -/
def chooseRule (first : Rule) (rest : List Rule) : Draws Rule := do
  let weights := (first :: rest).map Rule.weight
  if (Choice.total? weights).all fun total => decide (total ≤ 0) then
    throw (.settings (.noWeight first.predecessor.name))
  else
    let u ← draw
    return (first :: rest).getD (Choice.pick weights u) first

/-- One of some rules, of which there has to be one. -/
def chooseAmong : List Rule → Draws Rule
  | [] => throw .outOfRange
  | r :: rest => chooseRule r rest

/-- What a symbol becomes under its candidates. -/
def imageOf (s : Symbol) : List Rule → Draws Word
  | [] => return [s]
  | [r] => return r.successor
  | r :: rest => do return (← chooseRule r rest).successor

/-- The candidates of a symbol between the symbols before it, nearest first, and
those after it. -/
def candidatesAt (rulebook : Rulebook) (before : Word) (s : Symbol) (after : Word) :
    Except Error (List Rule) := do
  let (left, right) ← rulebook.window s
  rulebook.candidates s (before.take left).reverse (after.take right)

/-- Replace the rest of a word.  `before` holds the symbols before it and `done`
what those have become, both nearest first. -/
def passFrom (rulebook : Rulebook) (before done : Word) : Word → Draws Word
  | [] => return done.reverse
  | s :: after => do
    let candidates ← ask (candidatesAt rulebook before s after)
    let image ← imageOf s candidates
    passFrom rulebook (s :: before) (image.reverse ++ done) after

/-- Replace every symbol of a word once. -/
def pass (rulebook : Rulebook) (w : Word) : Draws Word :=
  passFrom rulebook [] [] w

/-- Replace the symbols of every word that follows a datum.  The data stay. -/
def passSegments (rulebook : Rulebook) : List (Datum × Word) → Draws Draft
  | [] => return []
  | (d, w) :: rest => do
    ask rulebook.answers
    if d.isKey then
      let image ← pass rulebook w
      return .datum d :: (Draft.ofWord image ++ (← passSegments rulebook rest))
    else throw .wrongType

/-- Replace every symbol of a draft once. -/
def passDraft (rulebook : Rulebook) (d : Draft) : Draws Draft := do
  let image ← pass rulebook d.leading
  return Draft.ofWord image ++ (← passSegments rulebook d.segments.2)

/-- A number of passes. -/
def passes (rulebook : Rulebook) : Nat → Word → Draws Word
  | 0, w => return w
  | n + 1, w => do passes rulebook n (← pass rulebook w)

/-- A number of passes, which must not be negative. -/
def derive (rulebook : Rulebook) (steps : Int) (w : Word) : Draws Word :=
  if steps < 0 then throw ((Datum.int steps).refused (.settings <| .negativeSteps ·))
  else passes rulebook steps.toNat w

end Derivation

end GrowthGrammar
