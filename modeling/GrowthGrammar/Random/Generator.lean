import GrowthGrammar.Random.Seed

/-!
# Random draws

A generator is a linear congruence on 128 bits.  A draw steps the state and
rotates the two halves of it, joined, by its six highest bits; the 53 highest
bits of the result are the draw, a multiple of 2 ^ -53 from zero up to one.

The start of a generator is fixed by its seed alone.
-/

namespace GrowthGrammar.Random

/-- A state and the constant added in each step. -/
structure Generator where
  /-- The state. -/
  state : BitVec 128
  /-- The odd constant added in each step. -/
  increment : BitVec 128
  deriving DecidableEq, Repr

namespace Generator

/-- The factor of each step. -/
def factor : BitVec 128 := 0x2360ED051FC65DA44385DF649FCCF645

/-- One step of the congruence. -/
def step (g : Generator) : Generator :=
  { g with state := g.state * factor + g.increment }

/-- The number that some 32-bit words write, lowest word first. -/
def joinWords (words : List UInt32) : Nat :=
  words.foldr (fun w n => w.toNat + Nat.pow 2 32 * n) 0

/-- The output words from one place on, two of them joined. -/
def longWord (words : List UInt32) (i : Nat) : Nat :=
  joinWords ((words.drop (2 * i)).take 2)

/-- The generator of a seed. -/
def ofSeed (seed : Nat) : Generator :=
  let words := outputWords 8 seed
  let start := BitVec.ofNat 128 (longWord words 0 * Nat.pow 2 64 + longWord words 1)
  let sequence := BitVec.ofNat 128 (longWord words 2 * Nat.pow 2 64 + longWord words 3)
  let g : Generator := ⟨0, sequence <<< 1 ||| 1⟩
  let g := g.step
  ({ g with state := g.state + start }).step

/-- The 64 bits that a state stands for. -/
def output (g : Generator) : BitVec 64 :=
  let high := (g.state >>> 64).truncate 64
  let low := g.state.truncate 64
  (high ^^^ low).rotateRight (g.state >>> 122).toNat

/-- A number of 53 bits as a fraction of one. -/
def fraction (bits : BitVec 64) : Float :=
  (bits >>> 11).toNat.toUInt64.toFloat / 9007199254740992

/-- The next draw, and the generator after it. -/
def draw (g : Generator) : Float × Generator :=
  let g := g.step
  (fraction g.output, g)

end Generator

end GrowthGrammar.Random
