/-!
# Seeds

A seed is a natural number of any size.  Its 32-bit words, lowest first, are
mixed into a pool of four words, and the pool is stirred into as many output
words as are asked for.  Every word of the seed reaches every word of the pool.

The mixing multiplies by a constant that itself changes with every use, so a
`Mixer` carries the multiplier from one use to the next.
-/

namespace GrowthGrammar.Random

/-- The multiplier of the next use, and the factor between uses. -/
structure Mixer where
  /-- The multiplier of the next use. -/
  multiplier : UInt32
  /-- What it is multiplied with after each use. -/
  factor : UInt32

/-- The upper half of a word folded onto the lower one. -/
def fold (v : UInt32) : UInt32 := v ^^^ (v >>> 16)

/-- Scramble one word. -/
def Mixer.scramble (m : Mixer) (v : UInt32) : UInt32 × Mixer :=
  let next := m.multiplier * m.factor
  (fold ((v ^^^ m.multiplier) * next), { m with multiplier := next })

/-- Join a word of the pool with a scrambled one. -/
def join (x y : UInt32) : UInt32 :=
  fold (0xca01f9dd * x - 0x4973f715 * y)

/-- The 32-bit words of a number, lowest first, at most `fuel` of them. -/
def wordsFrom : Nat → Nat → List UInt32
  | 0, _ => []
  | fuel + 1, n => if n = 0 then [] else UInt32.ofNat n :: wordsFrom fuel (n / Nat.pow 2 32)

/-- The 32-bit words of a seed, lowest first, one for zero. -/
def seedWords (seed : Nat) : List UInt32 :=
  if seed = 0 then [0] else wordsFrom (seed.log2 / 32 + 1) seed

/-- The number of words of a pool. -/
def poolSize : Nat := 4

/-- Scramble each word of a list. -/
def Mixer.scrambleAll (m : Mixer) : List UInt32 → List UInt32 × Mixer
  | [] => ([], m)
  | v :: rest =>
    let (w, m) := m.scramble v
    let (ws, m) := m.scrambleAll rest
    (w :: ws, m)

/-- Join a scrambled word into one place of a pool. -/
def stirInto (word : UInt32) (state : Array UInt32 × Mixer) (place : Nat) :
    Array UInt32 × Mixer :=
  let (scrambled, m) := state.2.scramble word
  (state.1.modify place fun x => join x scrambled, m)

/-- The places of a pool. -/
def places : List Nat := List.range poolSize

/-- Join one word of a pool into each of the others. -/
def spread (state : Array UInt32 × Mixer) (source : Nat) : Array UInt32 × Mixer :=
  (places.filter (· != source)).foldl
    (fun state place => stirInto (state.1.getD source 0) state place) state

/-- Join a further word of the seed into every word of a pool. -/
def absorb (state : Array UInt32 × Mixer) (word : UInt32) : Array UInt32 × Mixer :=
  places.foldl (stirInto word) state

/-- The pool of a seed. -/
def seedPool (seed : Nat) : Array UInt32 :=
  let words := seedWords seed
  let first := (List.range poolSize).map fun i => words.getD i 0
  let (scrambled, m) := Mixer.scrambleAll ⟨0x43b0d7e5, 0x931e8875⟩ first
  let mixed := places.foldl spread (scrambled.toArray, m)
  ((words.drop poolSize).foldl absorb mixed).1

/-- The first `count` output words of a seed. -/
def outputWords (count seed : Nat) : List UInt32 :=
  let pool := seedPool seed
  let cycled := (List.range count).map fun i => pool.getD (i % poolSize) 0
  (Mixer.scrambleAll ⟨0x8b51f9dd, 0x58f38ded⟩ cycled).1

end GrowthGrammar.Random
