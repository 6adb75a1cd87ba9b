import GrowthGrammar.Proofs.Decimal.Sum
import GrowthGrammar.Proofs.Derivation.Generations

/-!
# How a derivation ends

A draw cannot choose among several rules that all have weight zero, and a word at one of
whose positions the candidates are of this kind is stuck (`Derivation.Stuck`).  Since a
total is zero only if every weight is, nothing else can go wrong in a pass: it fails
exactly on a stuck word, whatever the generator is (`pass_fails_iff`).  By induction some
passes fail exactly if one of the words that their own draws lead to is stuck
(`passes_fails_iff`).

A system also refuses a word that its table does not know, and names the first symbol that
is unknown.  Main statement: with free locks nothing else can happen to a derivation, and
the system stays as it was (`System.derive_outcome`).
-/

namespace GrowthGrammar

open GrowthGrammar.Random (Generator)

theorem Rule.IsWeighted.nonneg {r : Rule} (weighted : r.IsWeighted) : 0 ≤ r.weight := by
  obtain ⟨finite, notNegative⟩ := r.isWeighted_iff.mp weighted
  exact (Decimal.Binary64.nonneg_iff_not_neg finite).mpr notNegative

namespace Derivation

variable {tieBreak : TieBreak} {rules : List Rule} {book : Rulebook}

/-! ## Passes that fail -/

/-- Rules among which a draw cannot choose: there are several, and each has weight zero. -/
def Weightless (candidates : List Rule) : Prop :=
  2 ≤ candidates.length ∧ ∀ r ∈ candidates, (r.weight == 0) = true

/-- At some position of the word the candidates, which are what the tie-break leaves of the
best rules there, are weightless. -/
def Stuck (tieBreak : TieBreak) (rules : List Rule) (w : Word) : Prop :=
  ∃ position < w.length, Weightless (tieBreak.choose (Rule.bestAt rules w position))

theorem chooseRule_fails_iff {first : Rule} {rest : List Rule}
    (weighted : ∀ r ∈ first :: rest, r.IsWeighted) (g : Generator) :
    (chooseRule first rest).Fails g ↔ ∀ r ∈ first :: rest, (r.weight == 0) = true := by
  have nonneg : ∀ x ∈ (first :: rest).map Rule.weight, 0 ≤ x :=
    List.forall_mem_map.mpr fun r member => (weighted r member).nonneg
  have zero := Decimal.Binary64.total_le_zero_iff nonneg
  rw [← List.map_cons, List.forall_mem_map] at zero
  rw [← zero, Step.Fails, chooseRule_runFrom]
  split
  case isTrue none => exact iff_of_true ⟨_, _, rfl⟩ none
  case isFalse some =>
    refine iff_of_false ?_ some
    rintro ⟨_, _, run⟩
    cases run

theorem imageOf_fails_iff (s : Symbol) {candidates : List Rule}
    (weighted : ∀ r ∈ candidates, r.IsWeighted) (g : Generator) :
    (imageOf s candidates).Fails g ↔ Weightless candidates := by
  match candidates with
  | [] => simp [imageOf, Step.not_fails_pure, Weightless]
  | [r] => simp [imageOf, Step.not_fails_pure, Weightless]
  | first :: second :: rest =>
    have opened : imageOf s (first :: second :: rest) =
        chooseRule first (second :: rest) >>= fun r => return r.successor := rfl
    rw [opened, Step.fails_bind_iff, chooseRule_fails_iff weighted, Weightless]
    simp [Step.not_fails_pure]

theorem wholePass_fails_iff (weighted : ∀ r ∈ rules, r.IsWeighted) (w : Word) (g : Generator) :
    (wholePass tieBreak rules w).Fails g ↔ Stuck tieBreak rules w := by
  have fails : ∀ place ∈ w.zipIdx, ∀ g : Generator,
      (imageOf place.1 (tieBreak.choose (Rule.bestAt rules w place.2))).Fails g ↔
        Weightless (tieBreak.choose (Rule.bestAt rules w place.2)) :=
    fun place _ g => imageOf_fails_iff place.1 (fun r member =>
      weighted r (Rule.mem_of_mem_bestAt (Rule.mem_of_mem_choose member))) g
  rw [wholePass, Step.fails_bind_iff, Step.mapM_fails_iff fails, Stuck]
  simp only [Step.not_fails_pure, and_false, exists_false, or_false]
  constructor
  · rintro ⟨⟨s, position⟩, member, weightless⟩
    exact ⟨position, (List.getElem?_eq_some_iff.mp (List.mem_zipIdx_iff_getElem?.mp member)).1,
      weightless⟩
  · rintro ⟨position, inside, weightless⟩
    exact ⟨(w[position], position), List.mem_zipIdx_iff_getElem?.mpr (by simp), weightless⟩

/-- A pass fails exactly on a stuck word. -/
theorem pass_fails_iff (holds : book.Holds tieBreak rules) (weighted : ∀ r ∈ rules, r.IsWeighted)
    (w : Word) (g : Generator) : (pass book w).Fails g ↔ Stuck tieBreak rules w := by
  rw [pass_eq_wholePass holds, wholePass_fails_iff weighted]

/-- Some passes fail exactly if they lead to a stuck word before the last one. -/
theorem passes_fails_iff (holds : book.Holds tieBreak rules)
    (weighted : ∀ r ∈ rules, r.IsWeighted) (n : Nat) (w : Word) (g : Generator) :
    (passes book n w).Fails g ↔
      ∃ k < n, ∃ v g', (passes book k w).runFrom g = (.ok v, g') ∧ Stuck tieBreak rules v := by
  induction n with
  | zero => simpa [passes] using Step.not_fails_pure w g
  | succ n ih =>
    -- the last pass is peeled off, so the passes before it are a shorter run from the same word
    rw [passes_succ_last, Step.fails_bind_iff, ih]
    simp only [pass_fails_iff holds weighted, Nat.lt_succ_iff_lt_or_eq, or_and_right, exists_or,
      exists_eq_left]

end Derivation

/-! ## Derivations that fail -/

namespace System

variable {tieBreak : TieBreak} {system : System} {rules : List Rule}

/-- A word with an unknown symbol is refused with the first of them. -/
theorem checkWordFrom_runFrom_of_not_knows (free : system.table.lock.IsFree) {w : Word}
    (unknown : ¬ system.Knows w) (start : Nat) :
    ∃ position s, w[position]? = some s ∧ system.table.value.contains s = false ∧
      system.Knows (w.take position) ∧
      (checkWordFrom start w).runFrom system =
        (.error (.symbol (.atPosition s (start + position))), system) := by
  induction w generalizing start with
  | nil => exact absurd (fun s member => absurd member List.not_mem_nil) unknown
  | cons s rest ih =>
    rw [checkWordFrom, Step.runFrom_bind_ok (onTable_runFrom (NameTable.contains_runFrom free s))]
    cases here : system.table.value.contains s with
    | false =>
      exact ⟨0, s, rfl, here, fun other member => absurd member List.not_mem_nil, rfl⟩
    | true =>
      have later : ¬ system.Knows rest := fun known =>
        unknown (List.forall_mem_cons.mpr ⟨here, known⟩)
      obtain ⟨position, other, at_position, missing, before, refused⟩ := ih later (start + 1)
      refine ⟨position + 1, other, at_position, missing,
        List.forall_mem_cons.mpr ⟨here, before⟩, ?_⟩
      rw [Nat.add_comm position 1, ← Nat.add_assoc]
      exact refused

theorem derive_runFrom_of_not_knows (free : system.table.lock.IsFree) {w : Word}
    (unknown : ¬ system.Knows w) (settings : Schedule) (fresh : Generator) :
    ∃ position s, w[position]? = some s ∧ system.table.value.contains s = false ∧
      system.Knows (w.take position) ∧
      (derive settings fresh w).runFrom system =
        (.error (.symbol (.atPosition s position)), system) := by
  obtain ⟨position, s, here, missing, before, refused⟩ :=
    checkWordFrom_runFrom_of_not_knows free unknown 0
  rw [Nat.zero_add] at refused
  exact ⟨position, s, here, missing, before,
    by rw [derive, checkWord, Step.runFrom_bind_error refused]⟩

/-- With the draws of the generator, one of the first `n` generations of the word, of which it
is the first itself, is stuck. -/
def RunsStuck (system : System) (tieBreak : TieBreak) (rules : List Rule) (n : Nat)
    (start : Generator) (w : Word) : Prop :=
  ∃ k < n, ∃ v g,
    (Derivation.passes system.store.frozen.rulebook k w).runFrom start = (.ok v, g) ∧
      Derivation.Stuck tieBreak rules v

/-- Deriving a known word fails exactly if a generation before the last one is stuck. -/
theorem Closed.derive_cases (closed : Closed tieBreak system rules)
    (tableFree : system.table.lock.IsFree) (storeFree : system.store.guarded.lock.IsFree) {w : Word}
    (known : system.Knows w) (n : Nat) (seed : Option Nat) (fresh : Generator) :
    (system.RunsStuck tieBreak rules n (generatorOf ⟨n, seed⟩ fresh) w ∧ ∃ name,
        (derive ⟨n, seed⟩ fresh w).runFrom system =
          (.error (.settings (.noWeight name)), system)) ∨
      (¬ system.RunsStuck tieBreak rules n (generatorOf ⟨n, seed⟩ fresh) w ∧ ∃ v,
        (derive ⟨n, seed⟩ fresh w).runFrom system = (.ok v, system)) := by
  have derived := derive_runFrom tableFree storeFree known ⟨n, seed⟩ fresh
  generalize generatorOf ⟨n, seed⟩ fresh = start at derived ⊢
  have fails := Derivation.passes_fails_iff closed.frozen_holds closed.weighted n w start
  rw [RunsStuck, ← fails, derived]
  by_cases failed : (Derivation.passes system.store.frozen.rulebook n w).Fails start
  · obtain ⟨e, g, run⟩ := failed
    obtain ⟨name, rfl⟩ := Derivation.passes_errorsOnly closed.frozen_holds n w _ e g run
    exact .inl ⟨⟨_, g, run⟩, name, by rw [run]⟩
  · obtain ⟨v, g, run⟩ := (Step.not_fails_iff _ _).mp failed
    exact .inr ⟨failed, v, by rw [run]⟩

/-- How a derivation with a seed, or without one and with any generator, ends in a reached system
whose locks are free.  The system stays as it was.  A word with an unknown symbol is refused, with
the first one of them, even if no pass is asked for.  Otherwise the derivation fails for settings
exactly if a generation before the last one is stuck, and gives a word exactly if none is.  No other
error occurs. -/
theorem derive_outcome (reached : Reached tieBreak system rules)
    (tableFree : system.table.lock.IsFree) (storeFree : system.store.guarded.lock.IsFree)
    (w : Word) (n : Nat) (seed : Option Nat) (fresh : Generator) :
    ∃ outcome, (derive ⟨n, seed⟩ fresh w).runFrom system = (outcome, system) ∧
      ((∃ e, outcome = .error e ∧ e.kind = .unknownSymbol) ↔ ¬ system.Knows w) ∧
      ((∃ e, outcome = .error e ∧ e.kind = .invalidSettings) ↔
        system.Knows w ∧
          system.RunsStuck tieBreak rules n (generatorOf ⟨n, seed⟩ fresh) w) ∧
      ((∃ v, outcome = .ok v) ↔ system.Knows w ∧
        ¬ system.RunsStuck tieBreak rules n (generatorOf ⟨n, seed⟩ fresh) w) ∧
      ∀ e, outcome = .error e →
        (∃ position s, e = .symbol (.atPosition s position) ∧ w[position]? = some s ∧
          system.table.value.contains s = false ∧ system.Knows (w.take position)) ∨
        ∃ name, e = .settings (.noWeight name) := by
  by_cases known : system.Knows w
  · rcases reached.closed.derive_cases tableFree storeFree known n seed fresh with
      ⟨stuck, name, derived⟩ | ⟨free, v, derived⟩
    · exact ⟨_, derived, by simp [Error.kind, known], by simp [Error.kind, known, stuck],
        by simp [stuck], fun e refused => .inr ⟨name, (Except.error.inj refused).symm⟩⟩
    · exact ⟨_, derived, by simp [known], by simp [free], by simp [known, free],
        fun e refused => by cases refused⟩
  · obtain ⟨position, s, here, missing, before, derived⟩ :=
      derive_runFrom_of_not_knows tableFree known ⟨n, seed⟩ fresh
    exact ⟨_, derived, by simp [Error.kind, known], by simp [Error.kind, known],
      by simp [known], fun e refused =>
        .inl ⟨position, s, (Except.error.inj refused).symm, here, missing, before⟩⟩

/-- Under two rules of weight zero for `X` no pass over `X` succeeds, and `Y`, which is no
symbol of the system, is refused without any pass. -/
theorem derive_outcome_of_weightless_rules :
    ∃ (system : System) (rules : List Rule), Reached .pool system rules ∧
      (∃ e, (derive ⟨1, some 7⟩ (.ofSeed 0) [⟨1, "X"⟩]).runFrom system = (.error e, system) ∧
        e.kind = .invalidSettings) ∧
      ∃ e, (derive ⟨0, some 7⟩ (.ofSeed 0) [⟨2, "Y"⟩]).runFrom system = (.error e, system) ∧
        e.kind = .unknownSymbol := by
  let plain : Rule := ⟨⟨1, "X"⟩, [⟨0, "F"⟩], [], [], 0⟩
  let double : Rule := ⟨⟨1, "X"⟩, [⟨1, "X"⟩, ⟨1, "X"⟩], [], [], 0⟩
  let system := ofRules .pool ["F", "X"] [plain, double]
  have weighted : ∀ r ∈ [plain, double], r.IsWeighted := by
    simp only [Rule.isWeighted_iff]
    decide
  have reached : Reached .pool system [plain, double] :=
    reached_ofRules ⟨by decide, by decide⟩ weighted (by decide)
  have known : system.Knows [⟨1, "X"⟩] := by decide
  have unknown : ¬ system.Knows [⟨2, "Y"⟩] := by decide
  have both : Rule.bestAt [plain, double] [⟨1, "X"⟩] 0 = [plain, double] := rfl
  have stuck : Derivation.Stuck .pool [plain, double] [⟨1, "X"⟩] := by
    refine ⟨0, by decide, ?_⟩
    rw [both]
    exact ⟨by decide, by decide⟩
  refine ⟨system, _, reached, ?_, ?_⟩
  · obtain ⟨outcome, derived, -, fails, -⟩ := derive_outcome reached (Lock.free_isFree _ _)
      (Lock.free_isFree _ _) [⟨1, "X"⟩] 1 (some 7) (.ofSeed 0)
    obtain ⟨e, rfl, kind⟩ := fails.mpr ⟨known, 0, by decide, _, _, rfl, stuck⟩
    exact ⟨e, derived, kind⟩
  · obtain ⟨outcome, derived, refused, -⟩ := derive_outcome reached (Lock.free_isFree _ _)
      (Lock.free_isFree _ _) [⟨2, "Y"⟩] 0 (some 7) (.ofSeed 0)
    obtain ⟨e, rfl, kind⟩ := refused.mpr unknown
    exact ⟨e, derived, kind⟩

end System

end GrowthGrammar
