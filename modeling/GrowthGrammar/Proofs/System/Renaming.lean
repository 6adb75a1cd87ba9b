import GrowthGrammar.Proofs.System.Ready

/-!
# Renaming

A grammar is a list of rules and an initial word, all of them given as names.  A system enters a
grammar by registering its rules one after the other and giving symbols to its word, and grows it
by passes over that word.

Main statement: what comes of a grammar depends neither on what its names are nor on the table
they are entered in.  Under every renaming that keeps its names different, the renamed grammar
grows, on whatever other table, into the renamed word with the same draws, or both fail with an
error of one kind (`Grammar.grow_rename`).
-/

namespace GrowthGrammar

open GrowthGrammar.Random (Generator)

/-- Rules and an initial word as names. -/
structure Grammar where
  /-- The rules, in the order they are registered. -/
  rules : List WrittenRule
  /-- The initial word. -/
  initial : List String

/-- The rule with its names replaced has the replaced names. -/
theorem WrittenRule.entered_rename (f : String → String) (written : WrittenRule) :
    (written.rename f).entered = written.entered.map f := by
  simp [entered, rename]

theorem WrittenRule.checked_rename (f : String → String) (written : WrittenRule) :
    (written.rename f).checked = written.checked.map (rename f) := by
  rw [checked, checked]
  show (Rule.checkWeight written.body.weight).map _ = _
  cases Rule.checkWeight written.body.weight <;> rfl

theorem WrittenRule.eq_of_checked {written found : WrittenRule}
    (passed : written.checked = .ok found) : found = written := by
  rw [checked] at passed
  cases weight : Rule.checkWeight written.body.weight with
  | error e =>
    rw [weight] at passed
    cases passed
  | ok _ =>
    rw [weight] at passed
    exact (Except.ok.inj passed).symm

namespace Grammar

/-- The names in the grammar. -/
def names (g : Grammar) : List String := g.rules.flatMap WrittenRule.entered ++ g.initial

/-- The grammar with every name replaced. -/
def rename (f : String → String) (g : Grammar) : Grammar where
  rules := g.rules.map (WrittenRule.rename f)
  initial := g.initial.map f

/-- Register the rules and give symbols to the initial word. -/
def enter (g : Grammar) : Step System Word := do
  let _ ← g.rules.mapM System.register
  System.onTable (NameTable.enterAll g.initial)

/-- The word that the grammar grows into. -/
def derive (settings : Schedule) (fresh : Generator) (g : Grammar) : Step System Word := do
  System.derive settings fresh (← g.enter)

/-- The word after some passes with the draws of a generator. -/
def grow (n : Nat) (g : Grammar) : Step (System × Generator) Word := do
  System.passes n (← Step.on Prod.fst (fun s p => (s, p.2)) g.enter)

theorem names_rename (f : String → String) (g : Grammar) :
    (g.rename f).names = g.names.map f := by
  simp [names, rename, List.flatMap_map, List.map_flatMap, WrittenRule.entered_rename]

theorem mapM_checked_rename (f : String → String) (rules : List WrittenRule) :
    (rules.map (WrittenRule.rename f)).mapM WrittenRule.checked =
      (rules.mapM WrittenRule.checked).map (List.map (WrittenRule.rename f)) := by
  induction rules with
  | nil => rfl
  | cons written rest ih =>
    rw [List.map_cons, List.mapM_cons, List.mapM_cons, ih, WrittenRule.checked_rename]
    cases written.checked with
    | error e => rfl
    | ok first => cases rest.mapM WrittenRule.checked <;> rfl

theorem eq_of_mapM_checked {rules found : List WrittenRule}
    (passed : rules.mapM WrittenRule.checked = .ok found) : found = rules := by
  induction rules generalizing found with
  | nil => exact (Except.ok.inj passed).symm
  | cons written rest ih =>
    rw [List.mapM_cons] at passed
    obtain ⟨first, here, passed⟩ := ok_of_except_bind passed
    obtain ⟨more, later, both⟩ := ok_of_except_bind passed
    rw [← WrittenRule.eq_of_checked here, ← ih later]
    exact (Except.ok.inj both).symm

/-! ## Entering a grammar -/

variable {tieBreak : TieBreak} {system first second : System} {rules rules' : List Rule}
  {w w' : Word} {g : Grammar} {f : String → String}

/-- The system is ready for rules that are spelled as the grammar has them, and knows a word that
is spelled as its initial word. -/
structure Entered (tieBreak : TieBreak) (g : Grammar) (system : System) (rules : List Rule)
    (w : Word) : Prop where
  ready : system.Ready tieBreak rules
  spelled : rules.map Rule.written = g.rules
  known : system.Knows w
  initial : w.names = g.initial

/-- A new system enters a grammar, unless a weight is refused. -/
theorem enter_cases (ready : system.Ready tieBreak []) (valid : ∀ name ∈ g.names, Name.IsValid name) :
    (∃ e after, g.rules.mapM WrittenRule.checked = .error e ∧
      g.enter.runFrom system = (.error e, after)) ∨
    ∃ w after rules, g.rules.mapM WrittenRule.checked = .ok g.rules ∧
      g.enter.runFrom system = (.ok w, after) ∧ Entered tieBreak g after rules w := by
  have rulesValid : ∀ written ∈ g.rules, ∀ name ∈ written.entered, Name.IsValid name :=
    fun written member name inside =>
      valid name (List.mem_append_left _ (List.mem_flatMap.mpr ⟨written, member, inside⟩))
  rcases run : (g.rules.mapM System.register).runFrom system with ⟨outcome, between⟩
  obtain ⟨same, readyAfter⟩ := ready.registerAll rulesValid run
  rw [enter]
  cases outcome with
  | error e => exact .inl ⟨e, between, same.symm, Step.runFrom_bind_error run _⟩
  | ok rules =>
    have spelled : rules.map Rule.written = g.rules := eq_of_mapM_checked same.symm
    have initialValid : ∀ name ∈ g.initial, Name.IsValid name :=
      fun name member => valid name (List.mem_append_right _ member)
    obtain ⟨w, after, entered, names, stillReady, known⟩ :=
      (readyAfter rules rfl).enterAll initialValid
    refine .inr ⟨w, after, rules, ?_, ?_, stillReady, spelled, known, names⟩
    · rw [← same, ← spelled]
      rfl
    · rw [Step.runFrom_bind_ok run, entered]

theorem Entered.name_mem_of_rule (entered : Entered tieBreak g system rules w) :
    ∀ r ∈ rules, ∀ s ∈ r.symbols, s.name ∈ g.names := by
  intro r member s inside
  refine List.mem_append_left _ (List.mem_flatMap.mpr ⟨r.written, ?_, ?_⟩)
  · rw [← entered.spelled]
    exact List.mem_map_of_mem member
  · simp only [Rule.symbols, List.mem_cons, List.mem_append] at inside
    simp only [WrittenRule.entered, Rule.written, Word.names, List.mem_cons, List.mem_append]
    grind

theorem Entered.name_mem_of_word (entered : Entered tieBreak g system rules w) :
    ∀ s ∈ w, s.name ∈ g.names := by
  intro s member
  refine List.mem_append_right _ ?_
  rw [← entered.initial]
  exact List.mem_map_of_mem member

/-- Systems that have entered a grammar and the renamed grammar grow words that are spelled
alike, with the same draws. -/
theorem Entered.passes_alike (entered : Entered tieBreak g first rules w)
    (entered' : Entered tieBreak (g.rename f) second rules' w')
    (apart : ∀ x ∈ g.names, ∀ y ∈ g.names, f x = f y → x = y) (n : Nat) :
    (Derivation.passes first.store.frozen.rulebook n w).Alike (Derivation.LacksAlike f)
      (fun v v' => v'.names = v.names.map f)
      (Derivation.passes second.store.frozen.rulebook n w') := by
  have spelled : rules'.map Rule.written = rules.map fun r => r.written.rename f := by
    rw [entered'.spelled, rename, ← entered.spelled, List.map_map]
    rfl
  have initial : w'.names = w.names.map f := by
    rw [entered'.initial, entered.initial, rename]
  exact entered.ready.closed.passes_alike entered'.ready.closed spelled
    (fun x y here there => apart x here y there) entered.name_mem_of_rule entered.known
    entered'.known entered.name_mem_of_word initial n

/-! ## Growing it -/

theorem grow_runFrom_of_refused {e : Error} {after : System}
    (refused : g.enter.runFrom system = (.error e, after)) (n : Nat) (draws : Generator) :
    (g.grow n).runFrom (system, draws) = (.error e, (after, draws)) := by
  rw [grow, Step.runFrom_bind_error]
  rw [Step.runFrom_on, refused]

theorem derive_runFrom_of_refused {e : Error} {after : System}
    (refused : g.enter.runFrom system = (.error e, after)) (settings : Schedule)
    (fresh : Generator) : (g.derive settings fresh).runFrom system = (.error e, after) := by
  rw [derive, Step.runFrom_bind_error refused]

theorem Entered.grow_runFrom {after : System} (entered : Entered tieBreak g after rules w)
    (run : g.enter.runFrom system = (.ok w, after)) (n : Nat) (draws : Generator) :
    (g.grow n).runFrom (system, draws) =
      (((Derivation.passes after.store.frozen.rulebook n w).runFrom draws).1,
        (after, ((Derivation.passes after.store.frozen.rulebook n w).runFrom draws).2)) := by
  have opened : (Step.on Prod.fst (fun s p => (s, p.2)) g.enter : Step (System × Generator)
      Word).runFrom (system, draws) = (.ok w, (after, draws)) := by
    rw [Step.runFrom_on, run]
  rw [grow, Step.runFrom_bind_ok opened, entered.ready.closed.passes_runFrom
    entered.ready.tableFree entered.ready.storeFree entered.known]

theorem Entered.derive_runFrom {after : System} (entered : Entered tieBreak g after rules w)
    (run : g.enter.runFrom system = (.ok w, after)) (settings : Schedule) (fresh : Generator) :
    (g.derive settings fresh).runFrom system =
      (((Derivation.passes after.store.frozen.rulebook settings.iterations w).runFrom
        (System.generatorOf settings fresh)).1, after) := by
  rw [derive, Step.runFrom_bind_ok run, System.derive_runFrom entered.ready.tableFree
    entered.ready.storeFree entered.known]

/-- Deriving a grammar is growing it with the draws of the seed, or with fresh ones. -/
theorem derive_eq_grow (ready : system.Ready tieBreak [])
    (valid : ∀ name ∈ g.names, Name.IsValid name) (settings : Schedule) (fresh : Generator) :
    ((g.derive settings fresh).runFrom system).1 =
      ((g.grow settings.iterations).runFrom (system, System.generatorOf settings fresh)).1 := by
  rcases enter_cases ready valid with ⟨e, after, -, refused⟩ | ⟨w, after, rules, -, run, entered⟩
  · rw [derive_runFrom_of_refused refused, grow_runFrom_of_refused refused]
  · rw [entered.derive_runFrom run, entered.grow_runFrom run]

theorem grow_alike (ready : first.Ready tieBreak []) (ready' : second.Ready tieBreak [])
    (valid : ∀ name ∈ g.names, Name.IsValid name)
    (validAfter : ∀ name ∈ g.names, Name.IsValid (f name))
    (apart : ∀ x ∈ g.names, ∀ y ∈ g.names, f x = f y → x = y) (n : Nat) (draws : Generator) :
    Corresponds (fun e e' => e.kind = e'.kind) (fun v v' => v'.names = v.names.map f)
        ((g.grow n).runFrom (first, draws)).1 (((g.rename f).grow n).runFrom (second, draws)).1 ∧
      ((g.grow n).runFrom (first, draws)).2.2 =
        (((g.rename f).grow n).runFrom (second, draws)).2.2 := by
  have valid' : ∀ name ∈ (g.rename f).names, Name.IsValid name := by
    rw [names_rename]
    exact List.forall_mem_map.mpr validAfter
  have checks := mapM_checked_rename f g.rules
  rcases enter_cases ready valid with
    ⟨e, after, fails, refused⟩ | ⟨w, after, rules, passes, run, entered⟩ <;>
  rcases enter_cases ready' valid' with
    ⟨e', after', fails', refused'⟩ | ⟨w', after', rules', passes', run', entered'⟩
  case inl.inl =>
    rw [fails] at checks
    obtain rfl : e' = e := Except.error.inj (fails'.symm.trans checks)
    rw [grow_runFrom_of_refused refused, grow_runFrom_of_refused refused']
    exact ⟨.error rfl, rfl⟩
  case inl.inr =>
    rw [fails] at checks
    cases passes'.symm.trans checks
  case inr.inl =>
    rw [passes] at checks
    cases fails'.symm.trans checks
  case inr.inr =>
    obtain ⟨outcomes, same⟩ := entered.passes_alike entered' apart n draws
    rw [entered.grow_runFrom run, entered'.grow_runFrom run']
    refine ⟨outcomes.mono ?_ fun _ _ names => names, same⟩
    rintro _ _ ⟨name, rfl, rfl⟩
    rfl

/-- Under a renaming that keeps the names of a grammar different and valid, the grammar and the
renamed one have outcomes that correspond, on whatever sound tables they are entered and under
every tie-break: both are refused with an error of one kind, or the word of the second one is the
renamed word of the first one.  Both use the same draws. -/
theorem grow_rename (g : Grammar) (f : String → String)
    (valid : ∀ name ∈ g.names, Name.IsValid name)
    (validAfter : ∀ name ∈ g.names, Name.IsValid (f name))
    (apart : ∀ x ∈ g.names, ∀ y ∈ g.names, f x = f y → x = y) (tieBreak : TieBreak)
    {t t' : NameTable} (free : t.lock.IsFree) (free' : t'.lock.IsFree) (sound : t.value.Sound)
    (sound' : t'.value.Sound) (timeout timeout' : Timeout) (settings : Schedule)
    (fresh : Generator) :
    Corresponds (fun e e' => e.kind = e'.kind) (fun w w' => w'.names = w.names.map f)
        ((g.derive settings fresh).runFrom ⟨t, .new tieBreak timeout⟩).1
        (((g.rename f).derive settings fresh).runFrom ⟨t', .new tieBreak timeout'⟩).1 ∧
      ((g.derive settings fresh).runFrom ⟨t, .new tieBreak timeout⟩).1 =
        ((g.grow settings.iterations).runFrom
          (⟨t, .new tieBreak timeout⟩, System.generatorOf settings fresh)).1 ∧
      ∀ (n : Nat) (draws : Generator),
        Corresponds (fun e e' => e.kind = e'.kind) (fun w w' => w'.names = w.names.map f)
            ((g.grow n).runFrom (⟨t, .new tieBreak timeout⟩, draws)).1
            (((g.rename f).grow n).runFrom (⟨t', .new tieBreak timeout'⟩, draws)).1 ∧
          ((g.grow n).runFrom (⟨t, .new tieBreak timeout⟩, draws)).2.2 =
            (((g.rename f).grow n).runFrom (⟨t', .new tieBreak timeout'⟩, draws)).2.2 := by
  have ready := System.ready_new free sound tieBreak timeout
  have ready' := System.ready_new free' sound' tieBreak timeout'
  have valid' : ∀ name ∈ (g.rename f).names, Name.IsValid name := by
    rw [names_rename]
    exact List.forall_mem_map.mpr validAfter
  have grows := grow_alike ready ready' valid validAfter apart
  refine ⟨?_, derive_eq_grow ready valid settings fresh, grows⟩
  rw [derive_eq_grow ready valid, derive_eq_grow ready' valid']
  exact (grows settings.iterations (System.generatorOf settings fresh)).1

/-- A stem that grows now and then. -/
def stem : Grammar where
  rules := [⟨⟨[], "X", []⟩, ⟨1.0, ["F", "X"]⟩⟩, ⟨⟨[], "X", []⟩, ⟨3.0, ["X"]⟩⟩]
  initial := ["X"]

/-- A renaming under which one of the names of the stem becomes the other. -/
def shifted (name : String) : String := if name = "F" then "X" else "Y"

/-- A table with other names and codes. -/
def otherTable : NameTable := ⟨Lock.free "symbol table" .forever, .ofNames ["Y", "[", "X"]⟩

/-- The stem and the renamed stem, on a new table and on one with other names and codes. -/
theorem grow_rename_of_stem :
    ((stem.derive ⟨6, some 7⟩ (.ofSeed 0)).runFrom
        ⟨.new .forever, .new .pool .forever⟩).1.toOption.map Word.names = some ["F", "X"] ∧
      (((stem.rename shifted).derive ⟨6, some 7⟩ (.ofSeed 0)).runFrom
        ⟨otherTable, .new .pool .forever⟩).1.toOption.map Word.names = some ["X", "Y"] ∧
      ((stem.grow 6).runFrom (⟨.new .forever, .new .pool .forever⟩, .ofSeed 7)).2.2 =
        (((stem.rename shifted).grow 6).runFrom
          (⟨otherTable, .new .pool .forever⟩, .ofSeed 7)).2.2 := by
  have free : (NameTable.new .forever).lock.IsFree := Lock.free_isFree _ _
  have otherFree : otherTable.lock.IsFree := Lock.free_isFree _ _
  have otherSound : otherTable.value.Sound := Vocabulary.ofNames_sound (by decide) (by decide)
  obtain ⟨outcomes, -, grows⟩ := grow_rename stem shifted (by decide) (by decide) (by decide) .pool
    free otherFree Vocabulary.empty_sound otherSound .forever .forever ⟨6, some 7⟩ (.ofSeed 0)
  have grown : ((stem.derive ⟨6, some 7⟩ (.ofSeed 0)).runFrom
      ⟨.new .forever, .new .pool .forever⟩).1.toOption.map Word.names = some ["F", "X"] := by
    decide +kernel
  refine ⟨grown, ?_, (grows 6 (.ofSeed 7)).2⟩
  generalize ((stem.derive ⟨6, some 7⟩ (.ofSeed 0)).runFrom
    ⟨.new .forever, .new .pool .forever⟩).1 = outcome at outcomes grown
  generalize (((stem.rename shifted).derive ⟨6, some 7⟩ (.ofSeed 0)).runFrom
    ⟨otherTable, .new .pool .forever⟩).1 = outcome' at outcomes
  cases outcomes with
  | error _ => cases grown
  | ok renamed =>
    simp only [Except.toOption, Option.map_some, Option.some.injEq] at grown ⊢
    rw [renamed, grown]
    rfl

end Grammar

end GrowthGrammar
