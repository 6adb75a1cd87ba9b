import GrowthGrammar.Proofs.Derivation.Generations

/-!
# Draws of a derivation

A generator gives a sequence of draws (`Generator.drawAt`), and the draws that a computation
takes are the first ones of it.  A pass takes one draw for each position where there are several
candidates, from left to right, and none elsewhere (`Derivation.TookDraws`): what a symbol
becomes is a function of its candidates and of that draw, whose place in the sequence is the
number of earlier positions with several candidates (`imagesUnder`).  This holds for every source
of rules.

A word at none of whose positions the tie-break leaves several of the best rules is drawless.  A
pass over it takes no draw and cannot fail, so it is a plain word and no computation any more
(`pass_eq_pure`), and so is a derivation all of whose generations are drawless
(`passes_eq_pure`).

Main statement: both together.  If the tie-break keeps one rule, or if nowhere two of the best
rules meet, then a derivation does not depend on its seed (`draws_only_for_choices`).
-/

namespace GrowthGrammar

open GrowthGrammar.Random (Generator)

/-! ## The sequence of draws -/

namespace Random.Generator

/-- The generator after some draws. -/
def after (g : Generator) : Nat → Generator
  | 0 => g
  | n + 1 => g.draw.2.after n

/-- The draw that follows `n` others. -/
def drawAt (g : Generator) (n : Nat) : Float := (g.after n).draw.1

theorem after_zero (g : Generator) : g.after 0 = g := by rw [after]

theorem after_succ (g : Generator) (n : Nat) : g.after (n + 1) = g.draw.2.after n := by rw [after]

theorem drawAt_zero (g : Generator) : g.drawAt 0 = g.draw.1 := by rw [drawAt, after_zero]

theorem after_add (g : Generator) (m n : Nat) : g.after (m + n) = (g.after m).after n := by
  induction m generalizing g with
  | zero => rw [Nat.zero_add, after_zero]
  | succ m ih => rw [Nat.succ_add, after_succ, after_succ, ih]

theorem drawAt_add (g : Generator) (m n : Nat) : g.drawAt (m + n) = (g.after m).drawAt n := by
  rw [drawAt, drawAt, after_add]

end Random.Generator

namespace Derivation

variable {tieBreak : TieBreak} {rules : List Rule} {book : Rulebook}

/-! ## Draws of one pass -/

/-- The number of positions with several candidates. -/
def choices (sets : List (List Rule)) : Nat :=
  sets.countP fun candidates => 2 ≤ candidates.length

/-- What a symbol becomes under its candidates if `u` is the draw among several of them. -/
def imageUnder (u : Float) (s : Symbol) : List Rule → Word
  | [] => [s]
  | [r] => r.successor
  | first :: second :: rest =>
    let candidates := first :: second :: rest
    (candidates.getD (Choice.pick (candidates.map Rule.weight) u) first).successor

/-- What the symbols of a word become under their candidates.  The draw for a position stands
behind those for the choices before it. -/
def imagesUnder (g : Generator) (w : Word) (sets : List (List Rule)) : List Word :=
  (w.zip sets).mapIdx fun position (s, candidates) =>
    imageUnder (g.drawAt (choices (sets.take position))) s candidates

/-- A pass over a word, which found these candidates at its positions, took one draw for each
position with several of them, from left to right, and no other. -/
structure TookDraws (book : Rulebook) (w : Word) (g : Generator) (v : Word) (g' : Generator)
    (sets : List (List Rule)) : Prop where
  /-- There are candidates for each position. -/
  length : sets.length = w.length
  /-- They are what the source of rules answers there. -/
  candidates (position : Nat) (s : Symbol) (found : List Rule) : w[position]? = some s →
    sets[position]? = some found →
      candidatesAt book (w.take position).reverse s (w.drop (position + 1)) = .ok found
  /-- Each symbol has become what its candidates and its draw make of it. -/
  word : v = (imagesUnder g w sets).flatten
  /-- As many draws are gone as there were choices. -/
  generator : g' = g.after (choices sets)

theorem choices_nil : choices [] = 0 := rfl

theorem choices_of_few {candidates : List Rule} (few : candidates.length ≤ 1) :
    choices [candidates] = 0 := by
  simp [choices]
  omega

theorem choices_of_many {candidates : List Rule} (many : 2 ≤ candidates.length) :
    choices [candidates] = 1 := by
  simp [choices, many]

theorem choices_cons (candidates : List Rule) (sets : List (List Rule)) :
    choices (candidates :: sets) = choices [candidates] + choices sets := by
  rw [choices, choices, choices, List.countP_cons, List.countP_singleton, Nat.add_comm]

theorem imagesUnder_cons (g : Generator) (s : Symbol) (w : Word) (candidates : List Rule)
    (sets : List (List Rule)) :
    imagesUnder g (s :: w) (candidates :: sets) =
      imageUnder (g.drawAt 0) s candidates ::
        imagesUnder (g.after (choices [candidates])) w sets := by
  have later : (fun (position : Nat) (place : Symbol × List Rule) =>
      imageUnder (g.drawAt (choices ((candidates :: sets).take (position + 1)))) place.1 place.2) =
        fun position place =>
          imageUnder ((g.after (choices [candidates])).drawAt (choices (sets.take position)))
            place.1 place.2 := by
    funext position place
    rw [List.take_succ_cons, choices_cons, Generator.drawAt_add]
  rw [imagesUnder, imagesUnder, List.zip_cons_cons, List.mapIdx_cons, List.take_zero, choices_nil,
    ← later]

/-- A symbol takes the next draw if it has several candidates, and none otherwise. -/
theorem eq_of_imageOf {s : Symbol} {candidates : List Rule} {image : Word} {g g' : Generator}
    (run : (imageOf s candidates).runFrom g = (.ok image, g')) :
    image = imageUnder (g.drawAt 0) s candidates ∧ g' = g.after (choices [candidates]) := by
  match candidates with
  | [] =>
    cases run
    have few : ([] : List Rule).length ≤ 1 := Nat.zero_le 1
    rw [choices_of_few few, Generator.after_zero]
    exact ⟨rfl, rfl⟩
  | [r] =>
    cases run
    have few : [r].length ≤ 1 := Nat.le_refl 1
    rw [choices_of_few few, Generator.after_zero]
    exact ⟨rfl, rfl⟩
  | first :: second :: rest =>
    obtain ⟨r, between, chosen, run⟩ := Step.ok_of_runFrom_bind run
    cases run
    rw [chooseRule_runFrom] at chosen
    split at chosen
    · cases chosen
    · cases chosen
      have many : 2 ≤ (first :: second :: rest).length := Nat.le_add_left 2 rest.length
      rw [choices_of_many many, Generator.after_succ, Generator.after_zero, Generator.drawAt_zero]
      -- by its equation, since unfolding would start to evaluate the draw
      exact ⟨by rw [imageUnder], rfl⟩

-- The induction is on the symbols to come, so the places of draws are counted from each of them.
theorem tookDraws_of_passFrom {before done w v : Word} {g g' : Generator}
    (run : (passFrom book before done w).runFrom g = (.ok v, g')) :
    ∃ sets : List (List Rule), sets.length = w.length ∧
      (∀ position s found, w[position]? = some s → sets[position]? = some found →
        candidatesAt book ((w.take position).reverse ++ before) s (w.drop (position + 1)) =
          .ok found) ∧
      v = done.reverse ++ (imagesUnder g w sets).flatten ∧ g' = g.after (choices sets) := by
  induction w generalizing before done g with
  | nil =>
    cases run
    exact ⟨[], rfl, nofun, (List.append_nil _).symm, rfl⟩
  | cons s after ih =>
    obtain ⟨candidates, between, asked, run⟩ := Step.ok_of_runFrom_bind run
    obtain ⟨image, later, imaged, run⟩ := Step.ok_of_runFrom_bind run
    obtain ⟨answered, rfl⟩ := Prod.mk.inj asked
    obtain ⟨rfl, rfl⟩ := eq_of_imageOf imaged
    obtain ⟨sets, sameLength, answers, rfl, rfl⟩ := ih run
    refine ⟨candidates :: sets, congrArg Nat.succ sameLength, ?_, ?_, ?_⟩
    · intro position symbol found here there
      cases position with
      | zero =>
        cases here
        cases there
        exact answered
      | succ position =>
        rw [List.take_succ_cons, List.drop_succ_cons, List.reverse_cons, List.append_assoc,
          List.singleton_append]
        exact answers position symbol found here there
    · rw [imagesUnder_cons, List.flatten_cons, List.reverse_append, List.reverse_reverse,
        List.append_assoc]
    · rw [choices_cons candidates sets, Generator.after_add]

/-- A pass that succeeds took one draw for each choice. -/
theorem tookDraws_of_pass {w v : Word} {g g' : Generator}
    (run : (pass book w).runFrom g = (.ok v, g')) : ∃ sets, TookDraws book w g v g' sets := by
  obtain ⟨sets, sameLength, answers, became, gone⟩ := tookDraws_of_passFrom run
  refine ⟨sets, sameLength, fun position s found here there => ?_, became, gone⟩
  have answer := answers position s found here there
  rwa [List.append_nil] at answer

/-! ## Words without choices -/

/-- At no position of the word does the tie-break leave several of the best rules. -/
def Drawless (tieBreak : TieBreak) (rules : List Rule) (w : Word) : Prop :=
  ∀ position, (tieBreak.choose (Rule.bestAt rules w position)).length ≤ 1

theorem drawless_of_ne_pool (keepsOne : tieBreak ≠ .pool) (w : Word) :
    Drawless tieBreak rules w := by
  intro position
  cases tieBreak with
  | pool => exact absurd rfl keepsOne
  | latest => exact Option.length_toList_le
  | earliest => exact Option.length_toList_le

theorem drawless_of_undisputed {w : Word} (undisputed : Rule.Undisputed rules w) :
    Drawless tieBreak rules w := by
  intro position
  by_cases pool : tieBreak = .pool
  · rw [pool]
    exact undisputed position
  · exact drawless_of_ne_pool pool w position

/-- A symbol with one candidate at most becomes the same word under every draw. -/
theorem imageOf_eq_pure {s : Symbol} {candidates : List Rule} (few : candidates.length ≤ 1) :
    imageOf s candidates = pure (imageUnder 0 s candidates) := by
  match candidates with
  | [] => rfl
  | [r] => rfl
  | first :: second :: rest => simp at few

theorem wholePass_eq_pure {w : Word} (drawless : Drawless tieBreak rules w) :
    wholePass tieBreak rules w = pure (w.zipIdx.map fun (s, position) =>
      imageUnder 0 s (tieBreak.choose (Rule.bestAt rules w position))).flatten := by
  have images : (fun place : Symbol × Nat =>
      imageOf place.1 (tieBreak.choose (Rule.bestAt rules w place.2))) = fun place =>
        pure (imageUnder 0 place.1 (tieBreak.choose (Rule.bestAt rules w place.2))) :=
    funext fun place => imageOf_eq_pure (drawless place.2)
  rw [wholePass, images, List.mapM_pure, pure_bind]

/-- A pass over a drawless word is a word. -/
theorem pass_eq_pure (holds : book.Holds tieBreak rules) {w : Word}
    (drawless : Drawless tieBreak rules w) : ∃ v, pass book w = pure v :=
  ⟨_, (pass_eq_wholePass holds w).trans (wholePass_eq_pure drawless)⟩

/-- Passes over drawless generations are a word. -/
theorem passes_eq_pure (holds : book.Holds tieBreak rules) {n : Nat} {w : Word} {g : Generator}
    (drawless : ∀ k < n, ∀ v g', (passes book k w).runFrom g = (.ok v, g') →
      Drawless tieBreak rules v) :
    ∃ v, passes book n w = pure v := by
  induction n generalizing w with
  | zero => exact ⟨w, rfl⟩
  | succ n ih =>
    obtain ⟨next, first⟩ := pass_eq_pure holds (drawless 0 (Nat.succ_pos n) w g rfl)
    have later (k : Nat) : passes book (k + 1) w = passes book k next := by
      rw [passes_succ, first, pure_bind]
    rw [later]
    refine ih fun k below v g' run => drawless (k + 1) (Nat.succ_lt_succ below) v g' ?_
    rw [later]
    exact run

/-! ## Derivations of a system -/

/-- A system derives a word in the same way from all seeds and generators if the passes of its
frozen rules are a word, whoever holds the locks. -/
theorem derive_seed_irrel {system : System} {w v : Word} {n : Nat}
    (drawless : passes system.store.frozen.rulebook n w = pure v) (a b : Option Nat)
    (fresh fresh' : Generator) :
    (System.derive ⟨n, a⟩ fresh w).runFrom system =
      (System.derive ⟨n, b⟩ fresh' w).runFrom system := by
  rw [System.derive, System.derive]
  rcases checked : (System.checkWord w).runFrom system with ⟨⟨e⟩ | ⟨⟨⟩⟩, between⟩
  · rw [Step.runFrom_bind_error checked, Step.runFrom_bind_error checked]
  · obtain ⟨-, rfl⟩ := System.knows_of_checkWordFrom checked
    rw [Step.runFrom_bind_ok checked, Step.runFrom_bind_ok checked]
    cases n with
    | zero => rw [if_pos rfl, if_pos rfl]
    | succ n =>
      rw [if_neg (Nat.succ_ne_zero n), if_neg (Nat.succ_ne_zero n)]
      rcases RuleStore.freeze_cases between.store with frozen | ⟨e, refused⟩
      · have opened := System.onStore_runFrom frozen
        rw [Step.runFrom_bind_ok opened, Step.runFrom_bind_ok opened]
        simp only [derive_natCast, drawless, Step.runFrom_pure]
      · have closed := System.onStore_runFrom refused
        rw [Step.runFrom_bind_error closed, Step.runFrom_bind_error closed]

/-- Under every source of rules, a pass that succeeds takes one draw for each position with
several candidates, from left to right, and none elsewhere.  So a reached system gives the same
for all seeds, and without a seed, if its tie-break keeps one rule, or if, from some generator, no
position of a generation has two rules among the best: the frozen rules derive one word, which every
generator gives without a draw. -/
theorem draws_only_for_choices :
    (∀ (book : Rulebook) (w v : Word) (g g' : Generator),
      (pass book w).runFrom g = (.ok v, g') → ∃ sets, TookDraws book w g v g' sets) ∧
    ∀ (tieBreak : TieBreak) (system : System) (rules : List Rule),
      System.Reached tieBreak system rules → ∀ (w : Word) (n : Nat) (start : Generator),
        (tieBreak = .latest ∨ tieBreak = .earliest ∨
          ∀ k < n, ∀ v g,
            (passes system.store.frozen.rulebook k w).runFrom start = (.ok v, g) →
              Rule.Undisputed rules v) →
        (∀ (a b : Option Nat) (fresh fresh' : Generator),
          (System.derive ⟨n, a⟩ fresh w).runFrom system =
            (System.derive ⟨n, b⟩ fresh' w).runFrom system) ∧
        ∃ v, (∀ g, (derive system.store.frozen.rulebook n w).runFrom g = (.ok v, g)) ∧
          (system.table.lock.IsFree → system.store.guarded.lock.IsFree → system.Knows w →
            ∀ seed fresh, (System.derive ⟨n, seed⟩ fresh w).runFrom system = (.ok v, system)) := by
  refine ⟨fun book w v g g' => tookDraws_of_pass, ?_⟩
  intro tieBreak system rules reached w n start oneLeft
  have holds := reached.closed.frozen_holds
  have drawless : ∀ k < n, ∀ v g,
      (passes system.store.frozen.rulebook k w).runFrom start = (.ok v, g) →
        Drawless tieBreak rules v := by
    intro k below v g run
    rcases oneLeft with rfl | rfl | undisputed
    · exact drawless_of_ne_pool (by decide) v
    · exact drawless_of_ne_pool (by decide) v
    · exact drawless_of_undisputed (undisputed k below v g run)
  obtain ⟨v, word⟩ := passes_eq_pure holds drawless
  refine ⟨derive_seed_irrel word, v, fun g => ?_, fun tableFree storeFree known seed fresh => ?_⟩
  · rw [derive_natCast, word]
    rfl
  · rw [System.derive_runFrom tableFree storeFree known, word]
    rfl

/-- With `X -> F` and then `X -> F X` under the latest rule, a pass over `X` takes no draw, and
the seeds 1 and 2 derive the same. -/
theorem draws_only_for_choices_of_latest :
    ∃ (system : System) (first second : Rule), System.Reached .latest system [first, second] ∧
      (∀ g, ∃ sets, TookDraws system.store.frozen.rulebook [⟨1, "X"⟩] g [⟨0, "F"⟩, ⟨1, "X"⟩] g
        sets) ∧
      (System.derive ⟨2, some 1⟩ (.ofSeed 0) [⟨1, "X"⟩]).runFrom system =
        (System.derive ⟨2, some 2⟩ (.ofSeed 0) [⟨1, "X"⟩]).runFrom system := by
  let first : Rule := ⟨⟨1, "X"⟩, [⟨0, "F"⟩], [], [], 1⟩
  let second : Rule := ⟨⟨1, "X"⟩, [⟨0, "F"⟩, ⟨1, "X"⟩], [], [], 1⟩
  let system := System.ofRules .latest ["F", "X"] [first, second]
  have weighted : ∀ r ∈ [first, second], r.IsWeighted := by
    simp only [Rule.isWeighted_iff]
    decide
  have reached : System.Reached .latest system [first, second] :=
    System.reached_ofRules ⟨by decide, by decide⟩ weighted (by decide)
  obtain ⟨took, same⟩ := draws_only_for_choices
  obtain ⟨seeds, -⟩ :=
    same .latest system [first, second] reached [⟨1, "X"⟩] 2 (.ofSeed 0) (.inl rfl)
  exact ⟨system, first, second, reached, fun g => took _ _ _ g g rfl,
    seeds (some 1) (some 2) (.ofSeed 0) (.ofSeed 0)⟩

end Derivation

end GrowthGrammar
