import GrowthGrammar.Rule

/-!
# Candidates

Of the rules that fit between two words, those with the longest contexts are the
candidates, in the order of their registration.  A tie-break says whether all of
them are alternatives, or only the last or the first registered one applies.
-/

namespace GrowthGrammar

/-- What to do with several rules of one specificity. -/
inductive TieBreak
  /-- All of them are weighted alternatives. -/
  | pool
  /-- The last registered one applies. -/
  | latest
  /-- The first registered one applies. -/
  | earliest
  deriving DecidableEq, Repr

namespace TieBreak

/-- The word for a tie-break. -/
def word : TieBreak → String
  | .pool => "pool"
  | .latest => "latest"
  | .earliest => "earliest"

/-- All tie-breaks. -/
def all : List TieBreak := [.pool, .latest, .earliest]

/-- The tie-break of a word. -/
def ofWord? (w : String) : Option TieBreak := all.find? fun t => t.word == w

/-- The tie-break of a datum. -/
def ofDatum (d : Datum) : Except Error TieBreak :=
  match d with
  | .text w =>
    match ofWord? w with
    | some t => .ok t
    | none => .error (.value (.noTieBreak d.shown))
  | _ => .error (d.refused fun shown => .value (.noTieBreak shown))

/-- Those of some alternatives that remain. -/
def choose {α : Type} (t : TieBreak) (alternatives : List α) : List α :=
  match t with
  | .pool => alternatives
  | .latest => alternatives.getLast?.toList
  | .earliest => alternatives.head?.toList

end TieBreak

namespace Rule

/-- The largest specificity among some rules. -/
def topSpecificity (rules : List Rule) : Nat :=
  rules.foldl (fun most r => max most r.specificity) 0

/-- The rules that apply between two words. -/
def candidates (tieBreak : TieBreak) (rules : List Rule) (before after : Word) : List Rule :=
  let fitting := rules.filter fun r => r.fits before after
  tieBreak.choose (fitting.filter fun r => r.specificity == topSpecificity fitting)

/-- The longest left context and the longest right context of some rules. -/
def windowOf (rules : List Rule) : Nat × Nat :=
  (rules.foldl (fun most r => max most r.left.length) 0,
    rules.foldl (fun most r => max most r.right.length) 0)

end Rule

end GrowthGrammar
