import GrowthGrammar.Settings.Configuration
import GrowthGrammar.Settings.Reserved

/-!
# Settings of a derivation

A derivation takes a number of passes and may take a seed.  Neither may be
negative.
-/

namespace GrowthGrammar

/-- How a derivation is run. -/
structure Schedule where
  /-- The number of passes. -/
  iterations : Nat
  /-- The seed of the draws. -/
  seed : Option Nat
  deriving DecidableEq, Repr

namespace Schedule

/-- The word for these settings in messages. -/
def subject : String := "RunSettings"

/-- The settings that hold when nothing is said. -/
def standard : Schedule := ⟨Configuration.standard.iterations, none⟩

/-- The settings that some fields give, or the issues of the fields. -/
def check (fields : List (String × Datum)) : Settings.Checked Schedule :=
  let iterations := Settings.field fields "iterations" standard.iterations
    fun d => do Settings.natural (← Settings.whole d)
  let seed := Settings.field fields "rng_seed" standard.seed
    (Settings.optional fun d => do Settings.natural (← Settings.whole d))
  (Settings.both iterations seed).map fun (iterations, seed) => ⟨iterations, seed⟩

/-- The settings that some fields give. -/
def ofFields (fields : List (String × Datum)) : Except Error Schedule := do
  Settings.refuseReserved (fields.map Prod.fst)
  (check fields).mapError fun issues => .settings (.fields subject issues)

/-- The settings that a datum gives: fields, a number of passes, or none. -/
def ofDatum : Datum → Except Error Schedule
  | .null => .ok standard
  | .record fields => ofFields fields
  | .int n => ofFields [("iterations", .int n)]
  | .bool b => ofFields [("iterations", .bool b)]
  | _ => .error .wrongType

/-- The settings of a number of passes and perhaps a seed. -/
def ofNumbers (iterations : Datum) (seed : Datum) : Except Error Schedule :=
  ofFields [("iterations", iterations), ("rng_seed", seed)]

/-- The seed that a datum gives by itself, which is not read like a field. -/
def seedOfDatum : Datum → Except Error Nat
  | .int n => if n < 0 then .error (.value .negativeSeed) else .ok n.toNat
  | .bool b => .ok (if b then 1 else 0)
  | _ => .error .wrongType

end Schedule

end GrowthGrammar
