import GrowthGrammar.Proofs.Decimal.Overflow
import GrowthGrammar.Proofs.Decimal.Sum
import GrowthGrammar.Proofs.Rule.Reading

/-!
# Weights of rules

A rule can be built with a weight that may be anything.  A truth value, a number and a text that
writes a number denote a double (`Datum.Denotes`), and a rule is built with it if it is finite and
not below zero.  Every other weight is refused as an invalid setting, with two exceptions.  A whole
number that is too large for a double (`Datum.IsTooLarge`) is no invalid setting but an overflow,
and a list or record with a whole number of too many digits in it cannot be shown in a message.

Main statement: `Rule.ofParts_outcome`.
-/

namespace GrowthGrammar

open Decimal Decimal.Binary64

/-! ## Doubles of whole numbers -/

namespace Decimal.Binary64

theorem nearest_ofInt (n : Int) : Nearest (ofInt n) n := by
  refine ⟨decide (n < 0), n.natAbs, 1, Nat.one_pos, rfl, ?_⟩
  rw [Nat.cast_one, div_one, Nat.cast_natAbs, Int.cast_abs, withSign]
  by_cases negative : n < 0
  · have negative' : (n : ℚ) < 0 := by exact_mod_cast negative
    rw [if_pos (decide_eq_true negative), abs_of_neg negative', neg_neg]
  · have nonneg : (0 : ℚ) ≤ n := by exact_mod_cast not_lt.mp negative
    rw [if_neg (by simpa using negative), abs_of_nonneg nonneg]

theorem ofInt?_eq (n : Int) :
    ofInt? n = if overflowBound ≤ n.natAbs then none else some (ofInt n) := by
  have bound := quotientBits_natAbs_eq_infinityBits_iff n Nat.one_pos
  rw [Nat.one_mul] at bound
  rw [ofInt?, if_congr bound rfl rfl]

end Decimal.Binary64

/-! ## What a weight denotes -/

namespace Datum

/-- The double that a datum denotes as a weight, finite or not. -/
inductive Denotes : Datum → Float → Prop
  /-- A truth value is one or zero. -/
  | truth (b : Bool) : Denotes (.bool b) (if b then 1 else 0)
  /-- A whole number is rounded, unless it is beyond the doubles. -/
  | whole {n : Int} : n.natAbs < overflowBound → Denotes (.int n) (ofInt n)
  /-- A double is itself. -/
  | real (x : Float) : Denotes (.real x) x
  /-- A text is the double that it writes. -/
  | text {s : String} {x : Float} : readReal s.toList = some x → Denotes (.text s) x

/-- The datum is a whole number that is rounded to no finite double. -/
def IsTooLarge : Datum → Prop
  | .int n => overflowBound ≤ n.natAbs
  | _ => False

theorem Denotes.nearest {n : Int} {x : Float} (denoted : (Datum.int n).Denotes x) :
    Nearest x n := by
  cases denoted
  exact nearest_ofInt n

theorem not_isTooLarge_of_denotes {d : Datum} {x : Float} (denoted : d.Denotes x) :
    ¬ d.IsTooLarge := by
  cases denoted with
  | whole inside => exact not_le_of_gt inside
  | _ => exact id

/-- What denotes a double has few enough digits to be shown. -/
theorem isWritable_of_denotes {d : Datum} {x : Float} (denoted : d.Denotes x) :
    d.isWritable = true := by
  cases denoted with
  | whole inside =>
    exact isWritable_of_lt (inside.trans_le <| Nat.le_mul_of_pos_left overflowBound two_pos)
  | _ => rfl

/-- The datum denotes a double that a rule can have as its weight. -/
def IsWeight (d : Datum) : Prop := ∃ x, d.Denotes x ∧ x.isFinite = true ∧ 0 ≤ x

end Datum

namespace Rule

/-- A weight that may be anything is the double that it denotes, an overflow or no number. -/
theorem weightOfDatum_cases (d : Datum) :
    (¬ d.IsTooLarge ∧ ∃ x, weightOfDatum d = .ok x ∧ ∀ y, d.Denotes y ↔ y = x) ∨
      (d.IsTooLarge ∧ weightOfDatum d = .error .overflow) ∨
      (¬ d.IsTooLarge ∧ weightOfDatum d = .error (d.refused (.settings <| .weightKind ·)) ∧
        ∀ y, ¬ d.Denotes y) := by
  cases d with
  | bool b =>
    refine .inl ⟨id, _, rfl, fun y => ⟨fun denoted => ?_, fun same => same ▸ .truth b⟩⟩
    cases denoted
    rfl
  | int n =>
    rw [weightOfDatum, ofInt?_eq]
    by_cases large : overflowBound ≤ n.natAbs
    · rw [if_pos large]
      exact .inr (.inl ⟨large, rfl⟩)
    · rw [if_neg large]
      refine .inl ⟨large, _, rfl, fun y => ⟨fun denoted => ?_,
        fun same => same ▸ .whole (not_le.mp large)⟩⟩
      cases denoted
      rfl
  | real x =>
    refine .inl ⟨id, _, rfl, fun y => ⟨fun denoted => ?_, fun same => same ▸ .real x⟩⟩
    cases denoted
    rfl
  | text s =>
    rw [weightOfDatum]
    cases read : readReal s.toList with
    | some x =>
      refine .inl ⟨id, x, rfl, fun y => ⟨fun denoted => ?_, fun same => same ▸ .text read⟩⟩
      cases denoted with
      | text found => exact Option.some.inj (found.symm.trans read)
    | none =>
      refine .inr (.inr ⟨id, rfl, fun y denoted => ?_⟩)
      cases denoted with
      | text found => exact absurd (found.symm.trans read) (Option.some_ne_none y)
  | null | list | record => exact .inr (.inr ⟨id, rfl, nofun⟩)

theorem checkWeight_eq_ok_iff (x y : Float) :
    checkWeight x = .ok y ↔ x.isFinite = true ∧ 0 ≤ x ∧ y = x := by
  rw [checkWeight]
  by_cases finite : x.isFinite = true
  · rw [nonneg_iff_not_neg finite]
    by_cases negative : x < 0 <;> simp [finite, negative, eq_comm]
  · simp [finite]

theorem checkWeight_of_not (x : Float) (wrong : ¬ (x.isFinite = true ∧ 0 ≤ x)) :
    checkWeight x = .error (.settings (.weightRange x)) := by
  cases checked : checkWeight x with
  | ok y =>
    obtain ⟨finite, nonneg, -⟩ := (checkWeight_eq_ok_iff x y).mp checked
    exact absurd ⟨finite, nonneg⟩ wrong
  | error e =>
    rw [checkWeight] at checked
    split at checked
    · exact checked.symm
    · cases checked

/-- The weight of the rule is one that a rule can be built with. -/
def IsWeighted (r : Rule) : Prop := checkWeight r.weight = .ok r.weight

theorem isWeighted_iff (r : Rule) :
    r.IsWeighted ↔ r.weight.isFinite = true ∧ ¬ r.weight < 0 := by
  rw [IsWeighted, checkWeight]
  cases r.weight.isFinite <;> by_cases negative : r.weight < 0 <;> simp [negative]

theorem isWeighted_of_make {predecessor : Symbol} {successor left right : Word} {weight : Float}
    {r : Rule} (made : make predecessor successor left right weight = .ok r) : r.IsWeighted := by
  obtain ⟨checked, passed, made⟩ := ok_of_except_bind made
  cases made
  have same := eq_of_checkWeight passed
  rw [IsWeighted, same]
  exact same ▸ passed

/-! ## Rules from parts -/

theorem isWeighted_of_ofParts {predecessor : Part} {successor left right : Parts} {weight : Datum}
    {r : Rule} (built : ofParts predecessor successor left right weight = .ok r) :
    r.IsWeighted := by
  cases predecessor with
  | datum d => cases built
  | symbol s =>
    obtain ⟨_, -, built⟩ := ok_of_except_bind built
    obtain ⟨_, -, built⟩ := ok_of_except_bind built
    obtain ⟨_, -, built⟩ := ok_of_except_bind built
    obtain ⟨_, -, built⟩ := ok_of_except_bind built
    obtain ⟨_, -, built⟩ := ok_of_except_bind built
    exact isWeighted_of_make built

theorem symbolsOfParts_ofWord (role : String) (w : Word) :
    symbolsOfParts role (Draft.ofWord w) = .ok w := by
  induction w with
  | nil => rfl
  | cons s w ih =>
    rw [Draft.ofWord, List.map_cons, symbolsOfParts, ← Draft.ofWord, ih]
    rfl

/-- A context that is a word or absent. -/
def Parts.ofContext : Option Word → Parts
  | none => .datum .null
  | some w => .list (Draft.ofWord w)

theorem contextOfParts_ofContext (role : String) (context : Option Word) :
    contextOfParts role (.ofContext context) = .ok (context.getD []) := by
  cases context with
  | none => rfl
  | some w => exact symbolsOfParts_ofWord role w

/-- From symbols the weight alone decides.  An empty context is the same as an absent one. -/
theorem ofParts_symbols (predecessor : Symbol) (successor : Word) (left right : Option Word)
    (weight : Datum) :
    ofParts (.symbol predecessor) (.list (Draft.ofWord successor)) (.ofContext left)
        (.ofContext right) weight =
      (weightOfDatum weight).bind fun x => (checkWeight x).map fun x =>
        ⟨predecessor, successor, left.getD [], right.getD [], x⟩ := by
  have part : wordOfParts "successor" (.list (Draft.ofWord successor)) = .ok successor :=
    symbolsOfParts_ofWord _ successor
  simp only [ofParts, part, contextOfParts_ofContext, make, bind, Except.bind, pure, Except.pure]
  cases weightOfDatum weight with
  | error e => rfl
  | ok x => cases checkWeight x <;> rfl

/-- Every weighted rule can be built from its parts. -/
theorem ofParts_of_isWeighted {r : Rule} (weighted : r.IsWeighted) :
    ofParts (.symbol r.predecessor) (.list (Draft.ofWord r.successor)) (.list (Draft.ofWord r.left))
      (.list (Draft.ofWord r.right)) (.real r.weight) = .ok r := by
  have built := ofParts_symbols r.predecessor r.successor (some r.left) (some r.right)
    (.real r.weight)
  have checked : checkWeight r.weight = .ok r.weight := weighted
  rw [weightOfDatum, Except.bind, checked] at built
  exact built

section

variable {predecessor : Symbol} {successor : Word} {left right : Option Word} {d : Datum}

/-- A rule from symbols is built, refused for its weight, or its weight overflows or cannot be
shown. -/
theorem ofParts_cases {built : Except Error Rule}
    (parts : ofParts (.symbol predecessor) (.list (Draft.ofWord successor)) (.ofContext left)
      (.ofContext right) d = built) :
    (∃ x, (∀ y, d.Denotes y ↔ y = x) ∧ x.isFinite = true ∧ 0 ≤ x ∧
      built = .ok ⟨predecessor, successor, left.getD [], right.getD [], x⟩) ∨
    (d.IsTooLarge ∧ built = .error .overflow) ∨
    (¬ d.IsWeight ∧ ¬ d.IsTooLarge ∧ d.isWritable = true ∧
      ∃ fault, built = .error (.settings fault) ∧
        (fault = .weightKind d.shown ∨ ∃ x, d.Denotes x ∧ fault = .weightRange x)) ∨
    (¬ d.IsWeight ∧ ¬ d.IsTooLarge ∧ d.isWritable = false ∧
      built = .error (.value .unwritable)) := by
  rw [ofParts_symbols] at parts
  subst parts
  rcases weightOfDatum_cases d with ⟨inside, x, weight, denotes⟩ | ⟨large, weight⟩ |
    ⟨inside, weight, none⟩
  · rw [weight, Except.bind]
    by_cases allowed : x.isFinite = true ∧ 0 ≤ x
    · rw [(checkWeight_eq_ok_iff x x).mpr ⟨allowed.1, allowed.2, rfl⟩]
      exact .inl ⟨x, denotes, allowed.1, allowed.2, rfl⟩
    · rw [checkWeight_of_not x allowed]
      have denoted : d.Denotes x := (denotes x).mpr rfl
      refine .inr (.inr (.inl ⟨?_, inside, Datum.isWritable_of_denotes denoted, _, rfl,
        .inr ⟨x, denoted, rfl⟩⟩))
      rintro ⟨y, denoted, other⟩
      exact allowed ((denotes y).mp denoted ▸ other)
  · rw [weight]
    exact .inr (.inl ⟨large, rfl⟩)
  · have unweighted : ¬ d.IsWeight := fun ⟨y, denoted, _⟩ => none y denoted
    rw [weight, Datum.refused]
    cases writable : d.isWritable with
    | true => exact .inr (.inr (.inl ⟨unweighted, inside, rfl, _, rfl, .inl rfl⟩))
    | false => exact .inr (.inr (.inr ⟨unweighted, inside, rfl, rfl⟩))

end

/-- A rule from symbols and a weight that may be anything.  It is built exactly if the weight
denotes a finite double that is not below zero, and has this double as its weight, the nearest one
for a whole number.  An empty context is an absent one.  Every other weight is an invalid setting,
for being no number or out of range, with two exceptions.  There is an overflow exactly for a whole
number too large for a double, and another weight that has a whole number of too many digits in it
cannot be shown in the message. -/
theorem ofParts_outcome (predecessor : Symbol) (successor : Word) (left right : Option Word)
    (d : Datum) :
    let built := ofParts (.symbol predecessor) (.list (Draft.ofWord successor)) (.ofContext left)
      (.ofContext right) d
    (∀ r, built = .ok r ↔ ∃ x, d.Denotes x ∧ x.isFinite = true ∧ 0 ≤ x ∧
      r = ⟨predecessor, successor, left.getD [], right.getD [], x⟩) ∧
    (∀ n r, d = .int n → built = .ok r → Nearest r.weight n) ∧
    ((∃ fault, built = .error (.settings fault)) ↔
      ¬ d.IsWeight ∧ ¬ d.IsTooLarge ∧ d.isWritable = true) ∧
    (built = .error .overflow ↔ d.IsTooLarge) ∧
    (built = .error (.value .unwritable) ↔ ¬ d.IsTooLarge ∧ d.isWritable = false) ∧
    ∀ e, built = .error e → e = .overflow ∨ e = .value .unwritable ∨
      ∃ fault, e = .settings fault ∧
        (fault = .weightKind d.shown ∨ ∃ x, d.Denotes x ∧ fault = .weightRange x) := by
  intro built
  have cases := ofParts_cases (rfl : built = built)
  have refused (none : ¬ d.IsWeight) (e : Error) (r : Rule) :
      Except.error e = .ok r ↔ ∃ x, d.Denotes x ∧ x.isFinite = true ∧ 0 ≤ x ∧
        r = ⟨predecessor, successor, left.getD [], right.getD [], x⟩ :=
    iff_of_false nofun fun ⟨x, denoted, finite, nonneg, _⟩ => none ⟨x, denoted, finite, nonneg⟩
  clear_value built
  rcases cases with ⟨x, denotes, finite, nonneg, rfl⟩ | ⟨large, rfl⟩ |
    ⟨none, inside, writable, fault, rfl, reason⟩ | ⟨none, inside, unwritable, rfl⟩
  · have denoted : d.Denotes x := (denotes x).mpr rfl
    have weight : d.IsWeight := ⟨x, denoted, finite, nonneg⟩
    have inside := Datum.not_isTooLarge_of_denotes denoted
    have writable := Datum.isWritable_of_denotes denoted
    refine ⟨fun r => ⟨?_, ?_⟩, ?_, by simp [weight], by simp [inside], by simp [writable], nofun⟩
    · rintro ⟨⟩
      exact ⟨x, denoted, finite, nonneg, rfl⟩
    · rintro ⟨y, other, -, -, rfl⟩
      rw [(denotes y).mp other]
    · rintro n r rfl ⟨⟩
      exact denoted.nearest
  · have none : ¬ d.IsWeight := fun ⟨x, denoted, _⟩ =>
      Datum.not_isTooLarge_of_denotes denoted large
    refine ⟨refused none _, nofun, by simp [large], by simp [large], by simp [large], ?_⟩
    rintro e ⟨⟩
    exact .inl rfl
  · refine ⟨refused none _, nofun, by simp [none, inside, writable], by simp [inside],
      by simp [writable], ?_⟩
    rintro e ⟨⟩
    exact .inr (.inr ⟨fault, rfl, reason⟩)
  · refine ⟨refused none _, nofun, by simp [unwritable], by simp [inside],
      by simp [inside, unwritable], ?_⟩
    rintro e ⟨⟩
    exact .inr (.inl rfl)

end Rule

end GrowthGrammar
