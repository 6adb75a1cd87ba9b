import GrowthGrammar.Proofs.Derivation.WholeWord
import GrowthGrammar.Proofs.System.Reached

/-!
# Generations of a word

One pass leads from a word to the next generation of it.  What a pass can do is said by
`Derivation.Rewrites`: each symbol stays, or becomes the successor of a rule for it.  So
whatever the rules keep is kept by one pass, and by induction by all of them
(`passes_keeps`).  Passes add up with their draws (`passes_add`).

A system checks a word before it derives it.  The symbols of the rules are known to the
table of a reached system, so each generation of a known word is known.  Main statement:
a derivation is as many single passes one after the other, although each of these checks
its word and looks at the store again (`System.derive_eq_single_passes`).
-/

namespace GrowthGrammar

open GrowthGrammar.Random (Generator)

namespace Derivation

variable {tieBreak : TieBreak} {rules : List Rule} {book : Rulebook}

/-! ## What one symbol becomes -/

/-- Rules among which to choose are chosen from by weight, unless there is none. -/
theorem chooseRule_runFrom (first : Rule) (rest : List Rule) (g : Generator) :
    (chooseRule first rest).runFrom g =
      if (Choice.total? ((first :: rest).map Rule.weight)).all fun total => decide (total ≤ 0) then
        (.error (.settings (.noWeight first.predecessor.name)), g)
      else
        (.ok ((first :: rest).getD (Choice.pick ((first :: rest).map Rule.weight) g.draw.1) first),
          g.draw.2) := by
  rw [chooseRule]
  split
  · rfl
  · rfl

theorem mem_of_chooseRule {first r : Rule} {rest : List Rule} {g g' : Generator}
    (run : (chooseRule first rest).runFrom g = (.ok r, g')) : r ∈ first :: rest := by
  rw [chooseRule_runFrom] at run
  split at run
  · cases run
  · cases run
    rw [List.getD_eq_getElem?_getD]
    cases found : (first :: rest)[Choice.pick ((first :: rest).map Rule.weight) g.draw.1]? with
    | none => exact List.mem_cons_self
    | some chosen => exact List.mem_of_getElem? found

theorem successor_of_imageOf {s : Symbol} {candidates : List Rule} {image : Word}
    {g g' : Generator} (run : (imageOf s candidates).runFrom g = (.ok image, g')) :
    image = [s] ∨ ∃ r ∈ candidates, r.successor = image := by
  match candidates with
  | [] =>
    cases run
    exact .inl rfl
  | [r] =>
    cases run
    exact .inr ⟨r, List.mem_singleton_self r, rfl⟩
  | first :: second :: rest =>
    obtain ⟨r, _, chosen, run⟩ := Step.ok_of_runFrom_bind run
    cases run
    exact .inr ⟨r, mem_of_chooseRule chosen, rfl⟩

/-- The error is a lack of weight among alternatives. -/
def IsLackOfWeight (e : Error) : Prop := ∃ name, e = .settings (.noWeight name)

theorem chooseRule_errorsOnly (first : Rule) (rest : List Rule) :
    (chooseRule first rest).ErrorsOnly IsLackOfWeight := by
  intro g e g' run
  rw [chooseRule_runFrom] at run
  split at run
  · cases run
    exact ⟨_, rfl⟩
  · cases run

/-- Nothing but a lack of weight can be wrong with candidates. -/
theorem imageOf_errorsOnly (s : Symbol) (candidates : List Rule) :
    (imageOf s candidates).ErrorsOnly IsLackOfWeight := by
  match candidates with
  | [] => exact .pure _ _
  | [r] => exact .pure _ _
  | first :: second :: rest =>
    exact .bind (chooseRule_errorsOnly first (second :: rest)) fun _ => .pure _ _

/-! ## What one pass does -/

/-- The second word can come from the first one by one pass: every symbol stays or becomes
the successor of a rule for it. -/
inductive Rewrites (rules : List Rule) : Word → Word → Prop
  | nil : Rewrites rules [] []
  | keep (s : Symbol) {w v : Word} : Rewrites rules w v → Rewrites rules (s :: w) (s :: v)
  | replace {s : Symbol} {r : Rule} {w v : Word} :
    r ∈ rules → r.predecessor.same s = true → Rewrites rules w v →
    Rewrites rules (s :: w) (r.successor ++ v)

/-- What holds of the symbols of all successors is kept by a pass. -/
theorem Rewrites.forall_mem {P : Symbol → Prop} {w v : Word} (rewrites : Rewrites rules w v)
    (successors : ∀ r ∈ rules, ∀ s ∈ r.successor, P s) (all : ∀ s ∈ w, P s) : ∀ s ∈ v, P s := by
  induction rewrites with
  | nil => exact all
  | keep s _ ih =>
    obtain ⟨here, later⟩ := List.forall_mem_cons.mp all
    exact List.forall_mem_cons.mpr ⟨here, ih later⟩
  | replace member _ _ ih =>
    obtain ⟨-, later⟩ := List.forall_mem_cons.mp all
    exact List.forall_mem_append.mpr ⟨successors _ member, ih later⟩

theorem mem_of_mem_candidates {candidates : List Rule} {before after : Word} {r : Rule}
    (member : r ∈ Rule.candidates tieBreak candidates before after) : r ∈ candidates := by
  have fitting := (List.mem_filter.mp (Rule.mem_of_mem_choose member)).1
  exact (List.mem_filter.mp fitting).1

theorem candidatesAt_eq (holds : book.Holds tieBreak rules) (before : Word) (s : Symbol)
    (after : Word) :
    ∃ candidates, candidatesAt book before s after = .ok candidates ∧
      ∀ r ∈ candidates, r ∈ rules ∧ r.predecessor.same s = true := by
  rw [candidatesAt, holds.window]
  exact ⟨_, holds.candidates s _ _,
    fun r member => List.mem_filter.mp (mem_of_mem_candidates member)⟩

-- The induction is on the symbols to come; what they become stands behind what is done.
theorem rewrites_of_passFrom (holds : book.Holds tieBreak rules) {before done w v : Word}
    {g g' : Generator} (run : (passFrom book before done w).runFrom g = (.ok v, g')) :
    ∃ rest, v = done.reverse ++ rest ∧ Rewrites rules w rest := by
  induction w generalizing before done g with
  | nil =>
    cases run
    exact ⟨[], by simp, .nil⟩
  | cons s after ih =>
    obtain ⟨candidates, found, mine⟩ := candidatesAt_eq holds before s after
    rw [passFrom, found, ask_ok_bind] at run
    obtain ⟨image, _, imaged, run⟩ := Step.ok_of_runFrom_bind run
    obtain ⟨rest, rfl, rewrites⟩ := ih run
    refine ⟨image ++ rest, by simp, ?_⟩
    rcases successor_of_imageOf imaged with rfl | ⟨r, member, rfl⟩
    · exact .keep s rewrites
    · exact .replace (mine r member).1 (mine r member).2 rewrites

/-- A pass replaces each symbol by the successor of a rule for it, or lets it stay. -/
theorem rewrites_of_pass (holds : book.Holds tieBreak rules) {w v : Word} {g g' : Generator}
    (run : (pass book w).runFrom g = (.ok v, g')) : Rewrites rules w v := by
  obtain ⟨rest, rfl, rewrites⟩ := rewrites_of_passFrom holds run
  exact rewrites

theorem passFrom_errorsOnly (holds : book.Holds tieBreak rules) (before done w : Word) :
    (passFrom book before done w).ErrorsOnly IsLackOfWeight := by
  induction w generalizing before done with
  | nil => exact .pure _ _
  | cons s after ih =>
    obtain ⟨candidates, found, -⟩ := candidatesAt_eq holds before s after
    rw [passFrom, found, ask_ok_bind]
    exact .bind (imageOf_errorsOnly s candidates) fun image => ih _ _

theorem pass_errorsOnly (holds : book.Holds tieBreak rules) (w : Word) :
    (pass book w).ErrorsOnly IsLackOfWeight :=
  passFrom_errorsOnly holds [] [] w

/-! ## Passes one after the other -/

theorem passes_succ (book : Rulebook) (n : Nat) (w : Word) :
    passes book (n + 1) w = pass book w >>= passes book n := rfl

/-- Some passes and then some more are all of them. -/
theorem passes_add (book : Rulebook) (m n : Nat) (w : Word) :
    passes book (m + n) w = passes book m w >>= passes book n := by
  induction m generalizing w with
  | zero => simp [passes]
  | succ m ih =>
    rw [Nat.succ_add, passes_succ, passes_succ, bind_assoc]
    exact bind_congr ih

theorem passes_errorsOnly (holds : book.Holds tieBreak rules) (n : Nat) (w : Word) :
    (passes book n w).ErrorsOnly IsLackOfWeight := by
  induction n generalizing w with
  | zero => exact .pure _ _
  | succ n ih => exact .bind (pass_errorsOnly holds w) ih

theorem passes_succ_last (book : Rulebook) (n : Nat) (w : Word) :
    passes book (n + 1) w = passes book n w >>= pass book := by
  rw [passes_add]
  exact bind_congr fun v => bind_pure (pass book v)

theorem derive_natCast (book : Rulebook) (n : Nat) (w : Word) :
    derive book n w = passes book n w := by
  have notNegative : ¬ (n : Int) < 0 := by omega
  rw [derive, if_neg notNegative, Int.toNat_natCast]

/-- Two books that agree about a pass over each generation but the last one give the same
passes, with the same draws. -/
theorem passes_runFrom_congr {book' : Rulebook} {n : Nat} {w : Word} {g : Generator}
    (same : ∀ k < n, ∀ v g', (passes book k w).runFrom g = (.ok v, g') →
      pass book v = pass book' v) :
    (passes book n w).runFrom g = (passes book' n w).runFrom g := by
  induction n generalizing w g with
  | zero => rfl
  | succ n ih =>
    have first : pass book w = pass book' w := same 0 (Nat.succ_pos n) w g rfl
    rw [passes_succ, passes_succ, ← first, Step.runFrom_bind, Step.runFrom_bind]
    rcases run : (pass book w).runFrom g with ⟨outcome, between⟩
    cases outcome with
    | error e => rfl
    | ok next =>
      refine ih fun k below v g' later => same (k + 1) (Nat.succ_lt_succ below) v g' ?_
      rw [passes_succ, Step.runFrom_bind_ok run]
      exact later

theorem derive_runFrom_congr {book' : Rulebook} {steps : Int} {w : Word} {g : Generator}
    (same : ∀ k : Nat, k < steps → ∀ v g', (passes book k w).runFrom g = (.ok v, g') →
      pass book v = pass book' v) :
    (derive book steps w).runFrom g = (derive book' steps w).runFrom g := by
  by_cases negative : steps < 0
  · rw [derive, derive, if_pos negative, if_pos negative]
  · rw [derive, derive, if_neg negative, if_neg negative]
    exact passes_runFrom_congr fun k below => same k (by omega)

/-- What every pass keeps holds of every generation. -/
theorem passes_keeps {I : Word → Prop} {n : Nat} {w v : Word} {g g' : Generator}
    (step : ∀ w v g g', I w → (pass book w).runFrom g = (.ok v, g') → I v) (start : I w)
    (run : (passes book n w).runFrom g = (.ok v, g')) : I v := by
  induction n generalizing w g with
  | zero =>
    cases run
    exact start
  | succ n ih =>
    obtain ⟨next, between, first, run⟩ := Step.ok_of_runFrom_bind run
    exact ih (step w next g between start first) run

end Derivation

/-! ## Derivations of a system -/

namespace RuleStore

theorem freeze_cases (store : RuleStore) :
    freeze.runFrom store = (.ok store.frozen, store) ∨
      ∃ e, freeze.runFrom store = (.error e, store) := by
  rw [freeze]
  rcases Guarded.read_cases store.guarded
    (fun rules : RuleSet => rules.groups.map fun g => (g.predecessor, g.rules)) with
    found | ⟨fault, refused⟩
  · have opened : (onRules (Guarded.read fun rules : RuleSet =>
        rules.groups.map fun g => (g.predecessor, g.rules))).runFrom store =
          (.ok store.frozen.groups, store) := by
      rw [onRules, Step.runFrom_on, found]
      rfl
    exact .inl (Step.runFrom_bind_ok opened _)
  · refine .inr ⟨.lock fault, Step.runFrom_bind_error ?_ _⟩
    rw [onRules, Step.runFrom_on, refused]

end RuleStore

namespace System

variable {tieBreak : TieBreak} {system : System} {rules : List Rule}

theorem Closed.frozen_holds (closed : Closed tieBreak system rules) :
    system.store.frozen.rulebook.Holds tieBreak rules := by
  rw [← closed.tieBreak_eq]
  exact RuleStore.frozen_holds closed.value_eq

/-- A pass over a word that the table knows gives one that it knows. -/
theorem Closed.knows_of_pass (closed : Closed tieBreak system rules) {w v : Word}
    {g g' : Generator} (known : system.Knows w)
    (run : (Derivation.pass system.store.frozen.rulebook w).runFrom g = (.ok v, g')) :
    system.Knows v := by
  have rewrites := Derivation.rewrites_of_pass closed.frozen_holds run
  refine rewrites.forall_mem (fun r member s inSuccessor => ?_) known
  exact closed.known r member s (by simp [Rule.symbols, inSuccessor])

theorem Closed.knows_of_passes (closed : Closed tieBreak system rules) {n : Nat} {w v : Word}
    {g g' : Generator} (known : system.Knows w)
    (run : (Derivation.passes system.store.frozen.rulebook n w).runFrom g = (.ok v, g')) :
    system.Knows v :=
  Derivation.passes_keeps (fun _ _ _ _ => closed.knows_of_pass) known run

/-! ### Checking a word -/

theorem checkWordFrom_runFrom_of_knows (free : system.table.lock.IsFree) {w : Word}
    (known : system.Knows w) (position : Nat) :
    (checkWordFrom position w).runFrom system = (.ok (), system) := by
  induction w generalizing position with
  | nil => rfl
  | cons s rest ih =>
    obtain ⟨here, later⟩ := List.forall_mem_cons.mp known
    rw [checkWordFrom,
      Step.runFrom_bind_ok (onTable_runFrom (NameTable.contains_runFrom free s)), here]
    exact ih later (position + 1)

theorem knows_of_checkWordFrom {after : System} {w : Word} {position : Nat}
    (run : (checkWordFrom position w).runFrom system = (.ok (), after)) :
    system.Knows w ∧ after = system := by
  induction w generalizing position with
  | nil =>
    cases run
    exact ⟨fun s member => absurd member List.not_mem_nil, rfl⟩
  | cons s rest ih =>
    rw [checkWordFrom] at run
    rcases NameTable.contains_cases system.table s with asked | ⟨e, refused⟩
    · rw [Step.runFrom_bind_ok (onTable_runFrom asked)] at run
      cases here : system.table.value.contains s with
      | true =>
        rw [here] at run
        obtain ⟨known, same⟩ := ih run
        exact ⟨List.forall_mem_cons.mpr ⟨here, known⟩, same⟩
      | false =>
        rw [here] at run
        cases run
    · rw [Step.runFrom_bind_error (onTable_runFrom refused)] at run
      cases run

/-! ### One pass and many -/

theorem pass_runFrom (tableFree : system.table.lock.IsFree)
    (storeFree : system.store.guarded.lock.IsFree) {w : Word} (known : system.Knows w)
    (g : Generator) :
    (pass w).runFrom (system, g) =
      (((Derivation.pass system.store.frozen.rulebook w).runFrom g).1,
        (system, ((Derivation.pass system.store.frozen.rulebook w).runFrom g).2)) := by
  have looked : (do checkWord w; onStore RuleStore.freeze : Step System FrozenRules).runFrom
      system = (.ok system.store.frozen, system) := by
    rw [checkWord, Step.runFrom_bind_ok (checkWordFrom_runFrom_of_knows tableFree known 0)]
    exact onStore_runFrom (RuleStore.freeze_runFrom storeFree)
  have opened : (Step.on Prod.fst (fun s p => (s, p.2)) (do checkWord w; onStore RuleStore.freeze) :
      Step (System × Generator) FrozenRules).runFrom (system, g) =
        (.ok system.store.frozen, (system, g)) := by
    rw [Step.runFrom_on, looked]
  rw [pass, Step.runFrom_bind_ok opened]
  rfl

/-- Some passes over a word of the system one after the other, with the draws of one
generator.  Each of them checks its word and looks at the store. -/
def passes : Nat → Word → Step (System × Generator) Word
  | 0, w => return w
  | n + 1, w => do passes n (← pass w)

theorem Closed.passes_runFrom (closed : Closed tieBreak system rules)
    (tableFree : system.table.lock.IsFree) (storeFree : system.store.guarded.lock.IsFree) {w : Word}
    (known : system.Knows w) (n : Nat) (g : Generator) :
    (passes n w).runFrom (system, g) =
      (((Derivation.passes system.store.frozen.rulebook n w).runFrom g).1,
        (system, ((Derivation.passes system.store.frozen.rulebook n w).runFrom g).2)) := by
  induction n generalizing w g with
  | zero => rfl
  | succ n ih =>
    rw [passes, Step.runFrom_bind, pass_runFrom tableFree storeFree known,
      Derivation.passes_succ, Step.runFrom_bind]
    rcases run : (Derivation.pass system.store.frozen.rulebook w).runFrom g with ⟨outcome, g'⟩
    cases outcome with
    | error e => rfl
    | ok v => exact ih (closed.knows_of_pass known run) g'

theorem derive_runFrom (tableFree : system.table.lock.IsFree)
    (storeFree : system.store.guarded.lock.IsFree) {w : Word} (known : system.Knows w)
    (settings : Schedule) (fresh : Generator) :
    (derive settings fresh w).runFrom system =
      (((Derivation.passes system.store.frozen.rulebook settings.iterations w).runFrom
        (generatorOf settings fresh)).1, system) := by
  obtain ⟨iterations, seed⟩ := settings
  rw [derive, checkWord, Step.runFrom_bind_ok (checkWordFrom_runFrom_of_knows tableFree known 0)]
  cases iterations with
  | zero => rfl
  | succ n =>
    rw [if_neg (Nat.succ_ne_zero n),
      Step.runFrom_bind_ok (onStore_runFrom (RuleStore.freeze_runFrom storeFree))]
    simp only [Step.runFrom_mk_pure, Derivation.derive_natCast]

/-- A derivation that gives a word, whoever holds the locks, was one of a known word, and
gives what the frozen rules make of it. -/
theorem ok_of_derive {settings : Schedule} {fresh : Generator} {w v : Word} {after : System}
    (derived : (derive settings fresh w).runFrom system = (.ok v, after)) :
    system.Knows w ∧ ∃ g', (Derivation.passes system.store.frozen.rulebook settings.iterations
      w).runFrom (generatorOf settings fresh) = (.ok v, g') := by
  obtain ⟨iterations, seed⟩ := settings
  rw [derive] at derived
  obtain ⟨_, between, checked, run⟩ := Step.ok_of_runFrom_bind derived
  obtain ⟨known, rfl⟩ := knows_of_checkWordFrom checked
  refine ⟨known, ?_⟩
  cases iterations with
  | zero =>
    rw [if_pos rfl] at run
    cases run
    exact ⟨_, rfl⟩
  | succ n =>
    rw [if_neg (Nat.succ_ne_zero n)] at run
    rcases RuleStore.freeze_cases between.store with frozen | ⟨e, refused⟩
    · rw [Step.runFrom_bind_ok (onStore_runFrom frozen)] at run
      simp only [Step.runFrom_mk_pure, Derivation.derive_natCast] at run
      have outcome := congrArg Prod.fst run
      exact ⟨_, Prod.ext outcome rfl⟩
    · rw [Step.runFrom_bind_error (onStore_runFrom refused)] at run
      cases run

/-- In a reached system whose locks are free, every generation of a known word is known, and
deriving it is making single passes with one generator, that of the seed or any if there is no
seed.  Each of them checks its word and finds nothing unknown.  Under every source of rules, some
passes and then some more are all of them. -/
theorem derive_eq_single_passes (reached : Reached tieBreak system rules)
    (tableFree : system.table.lock.IsFree) (storeFree : system.store.guarded.lock.IsFree) {w : Word}
    (known : system.Knows w) (n : Nat) (seed : Option Nat) (fresh : Generator) :
    (∀ k v g, (Derivation.passes system.store.frozen.rulebook k w).runFrom
        (generatorOf ⟨n, seed⟩ fresh) = (.ok v, g) → system.Knows v) ∧
      (derive ⟨n, seed⟩ fresh w).runFrom system =
        (((passes n w).runFrom (system, generatorOf ⟨n, seed⟩ fresh)).1, system) ∧
      (∀ k v after,
        (passes k w).runFrom (system, generatorOf ⟨n, seed⟩ fresh) = (.ok v, after) →
        ∀ e later, (pass v).runFrom after = (.error e, later) → e.kind ≠ .unknownSymbol) ∧
      ∀ (book : Rulebook) (a b : Nat) (u : Word) (g : Generator),
        (Derivation.derive book (a + b : Nat) u).runFrom g =
          (do Derivation.derive book b (← Derivation.derive book a u)).runFrom g := by
  have closed := reached.closed
  refine ⟨fun k v g => closed.knows_of_passes known, ?_, ?_, ?_⟩
  · rw [derive_runFrom tableFree storeFree known, closed.passes_runFrom tableFree storeFree known]
  · intro k v after generation e later refused
    rw [closed.passes_runFrom tableFree storeFree known] at generation
    rcases run : (Derivation.passes system.store.frozen.rulebook k w).runFrom
      (generatorOf ⟨n, seed⟩ fresh) with ⟨outcome, g⟩
    rw [run] at generation
    cases generation
    have stillKnown := closed.knows_of_passes known run
    rw [pass_runFrom tableFree storeFree stillKnown] at refused
    rcases passed : (Derivation.pass system.store.frozen.rulebook v).runFrom g with ⟨last, g'⟩
    rw [passed] at refused
    cases refused
    obtain ⟨name, rfl⟩ := Derivation.pass_errorsOnly closed.frozen_holds v g e g' passed
    simp [Error.kind]
  · intro book a b u g
    simp only [Derivation.derive_natCast, Derivation.passes_add]

/-- A system with the rule `X -> F X` derives `X` as two single passes do. -/
theorem derive_eq_single_passes_of_one_rule :
    ∃ (system : System) (r : Rule), Reached .pool system [r] ∧
      (derive ⟨2, some 7⟩ (.ofSeed 0) [⟨1, "X"⟩]).runFrom system =
        (.ok [⟨0, "F"⟩, ⟨0, "F"⟩, ⟨1, "X"⟩], system) ∧
      ((passes 2 [⟨1, "X"⟩]).runFrom (system, .ofSeed 7)).1 =
        .ok [⟨0, "F"⟩, ⟨0, "F"⟩, ⟨1, "X"⟩] := by
  let r : Rule := ⟨⟨1, "X"⟩, [⟨0, "F"⟩, ⟨1, "X"⟩], [], [], 1⟩
  let system := ofRules .pool ["F", "X"] [r]
  have weighted : r.IsWeighted := (Rule.isWeighted_iff r).mpr ⟨by decide, by decide⟩
  have reached : Reached .pool system [r] := reached_ofRules ⟨by decide, by decide⟩
    (List.forall_mem_singleton.mpr weighted) (by decide)
  have known : system.Knows [⟨1, "X"⟩] := by decide
  have grown (g : Generator) :
      ((Derivation.passes system.store.frozen.rulebook 2 [⟨1, "X"⟩]).runFrom g).1 =
        .ok [⟨0, "F"⟩, ⟨0, "F"⟩, ⟨1, "X"⟩] := rfl
  have derived := derive_runFrom (Lock.free_isFree _ _) (Lock.free_isFree _ _) known ⟨2, some 7⟩
    (.ofSeed 0)
  rw [grown] at derived
  obtain ⟨-, same, -⟩ := derive_eq_single_passes reached (Lock.free_isFree _ _)
    (Lock.free_isFree _ _) known 2 (some 7) (.ofSeed 0)
  rw [derived] at same
  exact ⟨system, r, reached, derived, (Prod.mk.inj same).1.symm⟩

end System

end GrowthGrammar
