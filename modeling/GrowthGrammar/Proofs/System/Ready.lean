import GrowthGrammar.Proofs.System.Spelled

/-!
# Ready systems

A system is ready (`System.Ready`) if it is closed under its rules and nobody holds its locks.
What a ready system does with a text depends on the text alone: which rule it registers
(`WrittenRule.admitted`) and which word it reads (`namesWritten`), or for what reason it refuses.
Whether it accepts or refuses, it is ready afterwards, for the rules it had and the one it has
accepted.
-/

namespace GrowthGrammar

/-! ## What texts give, as names -/

/-- What a text writes, or the error of its fault. -/
def orRefused {α : Type} (written : Except WrittenFault α) : Except Error α :=
  written.mapError fun fault => .parse (.written fault)

/-- The names of the word that a text writes. -/
def namesWritten (text : String) : Except Error (List String) :=
  orRefused ((checkNames (tokensOf text.toList)).map fun _ => tokensOf text.toList)

/-- The rule with its weight checked. -/
def WrittenRule.checked (written : WrittenRule) : Except Error WrittenRule :=
  (Rule.checkWeight written.body.weight).map fun _ => written

/-- The rule that a text gives. -/
def WrittenRule.admitted (text : String) : Except Error WrittenRule :=
  orRefused (WrittenRule.ofText text.toList) >>= WrittenRule.checked

theorem NameTable.ofWritten_runFrom {α : Type} (written : Except WrittenFault α) (t : NameTable) :
    (ofWritten written).runFrom t = (orRefused written, t) := by
  cases written <;> rfl

/-- What a free table reads from a text is spelled as what the text gives. -/
theorem Rule.read_written {t : NameTable} (free : t.lock.IsFree) (text : String) :
    ((read text).runFrom t).1.map written = WrittenRule.admitted text := by
  rw [read, Step.runFrom_bind, NameTable.ofWritten_runFrom, WrittenRule.admitted]
  cases found : WrittenRule.ofText text.toList with
  | error fault => rfl
  | ok written =>
    show ((ofWritten written).runFrom t).1.map Rule.written = written.checked
    rw [ofWritten_runFrom_of_valid free (WrittenRule.valid_of_ofText found), WrittenRule.checked]
    cases checkWeight written.body.weight with
    | error e => rfl
    | ok weight => exact congrArg Except.ok (Vocabulary.written_ruleOf _ _)

/-- A text gives a rule exactly if it is read as this rule by every free table. -/
theorem WrittenRule.admitted_eq_ok_iff (text : String) (written : WrittenRule) :
    admitted text = .ok written ↔ ∀ t : NameTable, t.lock.IsFree →
      ∃ r after, (Rule.read text).runFrom t = (.ok r, after) ∧ r.written = written := by
  constructor
  · intro given t free
    rw [← Rule.read_written free] at given
    rcases run : (Rule.read text).runFrom t with ⟨outcome, after⟩
    rw [run] at given
    cases outcome with
    | error e => cases given
    | ok r => exact ⟨r, after, rfl, Except.ok.inj given⟩
  · intro each
    have free : (NameTable.new .forever).lock.IsFree := Lock.free_isFree _ _
    obtain ⟨r, after, run, same⟩ := each _ free
    rw [← Rule.read_written free, run, ← same]
    rfl

namespace System

/-- Register the rule that some names and a weight make. -/
def register (written : WrittenRule) : Step System Rule := do
  add (← onTable (Rule.ofWritten written))

/-- The system is closed under its rules, and nobody holds its locks. -/
structure Ready (tieBreak : TieBreak) (system : System) (rules : List Rule) : Prop where
  closed : Closed tieBreak system rules
  tableFree : system.table.lock.IsFree
  storeFree : system.store.guarded.lock.IsFree

variable {tieBreak : TieBreak} {system after : System} {rules : List Rule}

theorem ready_new {t : NameTable} (free : t.lock.IsFree) (sound : t.value.Sound)
    (tieBreak : TieBreak) (timeout : Timeout) :
    Ready tieBreak ⟨t, RuleStore.new tieBreak timeout⟩ [] :=
  ⟨(Reached.new sound timeout).closed, free, Lock.free_isFree _ _⟩

theorem Ready.addAll (ready : Ready tieBreak system rules) {names : List String}
    (valid : ∀ name ∈ names, Name.IsValid name) :
    Ready tieBreak { system with table := system.table.addAll names } rules :=
  ⟨ready.closed.grow ⟨ready.closed.sound.addAll valid, Vocabulary.extends_addAll _ _⟩,
    ready.tableFree, ready.storeFree⟩

/-- A ready system lists its rules predecessor by predecessor. -/
theorem Ready.toList_runFrom (ready : Ready tieBreak system rules) :
    (onStore RuleStore.toList).runFrom system = (.ok (RuleSet.ofList rules).toList, system) := by
  rw [onStore_runFrom (RuleStore.toList_runFrom ready.storeFree), ready.closed.value_eq]

/-- Two ready systems whose rules are spelled alike list rules that are spelled alike. -/
theorem Ready.listing_written {first second : System} {rules' : List Rule}
    (ready : Ready tieBreak first rules) (ready' : Ready tieBreak second rules')
    (spelled : rules'.map Rule.written = rules.map Rule.written) :
    (RuleSet.ofList rules').toList.map Rule.written =
      (RuleSet.ofList rules).toList.map Rule.written := by
  have alike := ready.closed.listing_alike ready'.closed (f := id) (N := fun _ => True)
    (by simpa [WrittenRule.rename_id] using spelled) (fun _ _ _ _ equal => equal)
    (fun _ _ _ _ => trivial)
  rw [ready.closed.value_eq, ready'.closed.value_eq] at alike
  simpa [WrittenRule.rename_id] using alike

/-! ## Registering rules -/

/-- Registering a rule of valid names gives a rule that is spelled like it, unless the weight is
refused. -/
theorem Ready.register (ready : Ready tieBreak system rules) {written : WrittenRule}
    (valid : ∀ name ∈ written.entered, Name.IsValid name) {outcome : Except Error Rule}
    (run : (register written).runFrom system = (outcome, after)) :
    outcome.map Rule.written = written.checked ∧
      Ready tieBreak after (rules ++ outcome.toOption.toList) := by
  have entered := onTable_runFrom (Rule.ofWritten_runFrom_of_valid ready.tableFree valid)
  have grown := ready.addAll valid
  rw [System.register] at run
  rw [WrittenRule.checked]
  cases checked : Rule.checkWeight written.body.weight with
  | error e =>
    rw [checked] at entered
    rw [Step.runFrom_bind_error entered] at run
    cases run
    exact ⟨rfl, by simpa [Except.toOption] using grown⟩
  | ok weight =>
    obtain rfl := Rule.eq_of_checkWeight checked
    rw [checked] at entered
    have known : ({ system with table := system.table.addAll written.entered } : System).Knows
        (system.table.value.ruleOf written).symbols :=
      fun s member => Vocabulary.contains_of_mem_ruleOf member
    rw [Step.runFrom_bind_ok entered, add_runFrom grown.tableFree grown.storeFree known] at run
    cases run
    refine ⟨congrArg Except.ok (Vocabulary.written_ruleOf _ _), ?_, grown.tableFree,
      grown.storeFree⟩
    exact grown.closed.withRule checked known

/-- Registering a text registers the rule that it writes. -/
theorem addText_eq (text : String) :
    addText text = (do
      let written ← onTable (NameTable.ofWritten (WrittenRule.ofText text.toList))
      register written) := by
  rw [addText, Rule.read, onTable_bind, bind_assoc]
  rfl

theorem Ready.addText (ready : Ready tieBreak system rules) {text : String}
    {outcome : Except Error Rule} (run : (addText text).runFrom system = (outcome, after)) :
    outcome.map Rule.written = WrittenRule.admitted text ∧
      Ready tieBreak after (rules ++ outcome.toOption.toList) := by
  have read : (onTable (NameTable.ofWritten (WrittenRule.ofText text.toList))).runFrom system =
      (orRefused (WrittenRule.ofText text.toList), system) :=
    onTable_runFrom (NameTable.ofWritten_runFrom _ _)
  rw [addText_eq, Step.runFrom_bind, read] at run
  rw [WrittenRule.admitted]
  cases found : WrittenRule.ofText text.toList with
  | error fault =>
    rw [found] at run
    cases run
    exact ⟨rfl, by simpa [Except.toOption] using ready⟩
  | ok written =>
    rw [found] at run
    exact ready.register (WrittenRule.valid_of_ofText found) run

/-- Rules of valid names are registered up to the first one whose weight is refused. -/
theorem Ready.registerAll (ready : Ready tieBreak system rules) {all : List WrittenRule}
    (valid : ∀ written ∈ all, ∀ name ∈ written.entered, Name.IsValid name)
    {outcome : Except Error (List Rule)}
    (run : (all.mapM System.register).runFrom system = (outcome, after)) :
    outcome.map (List.map Rule.written) = all.mapM WrittenRule.checked ∧
      ∀ added, outcome = .ok added → Ready tieBreak after (rules ++ added) := by
  induction all generalizing system after rules outcome with
  | nil =>
    cases run
    refine ⟨rfl, fun added same => ?_⟩
    cases same
    simpa using ready
  | cons written rest ih =>
    obtain ⟨here, later⟩ := List.forall_mem_cons.mp valid
    rw [List.mapM_cons] at run ⊢
    rcases first : (System.register written).runFrom system with ⟨firstOutcome, between⟩
    obtain ⟨firstSame, firstReady⟩ := ready.register here first
    rw [← firstSame]
    cases firstOutcome with
    | error e =>
      rw [Step.runFrom_bind_error first] at run
      cases run
      exact ⟨rfl, fun added same => by cases same⟩
    | ok r =>
      rw [Step.runFrom_bind_ok first] at run
      rcases others : (rest.mapM System.register).runFrom between with ⟨restOutcome, last⟩
      obtain ⟨restSame, restReady⟩ := ih firstReady later others
      show _ = (rest.mapM WrittenRule.checked >>= fun more => .ok (r.written :: more)) ∧ _
      rw [← restSame]
      cases restOutcome with
      | error e =>
        rw [Step.runFrom_bind_error others] at run
        cases run
        exact ⟨rfl, fun added same => by cases same⟩
      | ok more =>
        rw [Step.runFrom_bind_ok others] at run
        cases run
        refine ⟨rfl, fun added same => ?_⟩
        cases same
        simpa [Except.toOption] using restReady more rfl

/-! ## Reading names and words -/

theorem Ready.enterDatum (ready : Ready tieBreak system rules) {d : Datum}
    {outcome : Except Error Symbol}
    (run : (onTable (NameTable.enterDatum d)).runFrom system = (outcome, after)) :
    outcome.map Symbol.name = orRefused ((Name.ofDatum d).mapError .name) ∧
      Ready tieBreak after rules := by
  cases named : Name.ofDatum d with
  | error fault =>
    rw [onTable_runFrom (NameTable.enterDatum_runFrom_of_fault _ named)] at run
    cases run
    exact ⟨rfl, ready⟩
  | ok name =>
    rw [onTable_runFrom (NameTable.enterDatum_runFrom ready.tableFree named)] at run
    cases run
    refine ⟨congrArg Except.ok (Vocabulary.symbol_name _ _), ready.addAll ?_⟩
    exact List.forall_mem_singleton.mpr (Name.ofDatum_valid named)

/-- Valid names get symbols, all of which are known afterwards. -/
theorem Ready.enterAll (ready : Ready tieBreak system rules) {names : List String}
    (valid : ∀ name ∈ names, Name.IsValid name) :
    ∃ w after, (onTable (NameTable.enterAll names)).runFrom system = (.ok w, after) ∧
      w.names = names ∧ Ready tieBreak after rules ∧ after.Knows w :=
  ⟨_, _, onTable_runFrom (NameTable.enterAll_runFrom ready.tableFree valid),
    Vocabulary.names_wordOf _ _, ready.addAll valid,
    fun _ member => Vocabulary.contains_of_mem_wordOf member⟩

theorem Ready.readWord (ready : Ready tieBreak system rules) {text : String}
    {outcome : Except Error Word}
    (run : (onTable (NameTable.readWord text)).runFrom system = (outcome, after)) :
    outcome.map Word.names = namesWritten text ∧ Ready tieBreak after rules ∧
      ∀ w, outcome = .ok w → after.Knows w := by
  rw [namesWritten]
  cases checked : checkNames (tokensOf text.toList) with
  | error fault =>
    rw [onTable_runFrom (NameTable.readWord_runFrom_of_fault _ checked)] at run
    cases run
    exact ⟨rfl, ready, fun w same => by cases same⟩
  | ok _ =>
    have valid := (checkNames_eq_ok_iff _).mp checked
    rw [onTable_runFrom (NameTable.readWord_runFrom ready.tableFree valid)] at run
    cases run
    refine ⟨congrArg Except.ok (Vocabulary.names_wordOf _ _), ready.addAll valid, ?_⟩
    rintro w ⟨⟩ s member
    exact Vocabulary.contains_of_mem_wordOf member

/-! ## Deriving -/

/-- Two ready systems whose rules are spelled alike, up to a renaming that keeps the names in play
apart, derive words that are spelled alike, or lack weight for names that are. -/
theorem Ready.derive_alike {first second : System} {rules' : List Rule} {f : String → String}
    {N : String → Prop} (ready : Ready tieBreak first rules) (ready' : Ready tieBreak second rules')
    (spelled : rules'.map Rule.written = rules.map fun r => r.written.rename f)
    (apart : ∀ x y, N x → N y → f x = f y → x = y) (ruleNames : ∀ r ∈ rules, ∀ s ∈ r.symbols, N s.name)
    {w w' : Word} (known : first.Knows w) (known' : second.Knows w')
    (wordNames : ∀ s ∈ w, N s.name) (renamed : w'.names = w.names.map f) (settings : Schedule)
    (fresh : Random.Generator) :
    Corresponds (Derivation.LacksAlike f) (fun v v' => v'.names = v.names.map f)
      ((derive settings fresh w).runFrom first).1
      ((derive settings fresh w').runFrom second).1 := by
  rw [derive_runFrom ready.tableFree ready.storeFree known,
    derive_runFrom ready'.tableFree ready'.storeFree known']
  exact (ready.closed.passes_alike ready'.closed spelled apart ruleNames known known' wordNames
    renamed settings.iterations (generatorOf settings fresh)).1

/-- Two ready systems whose rules are spelled alike derive the same names, or fail with the same
error. -/
theorem Ready.derive_names {first second : System} {rules' : List Rule}
    (ready : Ready tieBreak first rules) (ready' : Ready tieBreak second rules')
    (spelled : rules'.map Rule.written = rules.map Rule.written) {w w' : Word}
    (known : first.Knows w) (known' : second.Knows w') (same : w'.names = w.names)
    (settings : Schedule) (fresh : Random.Generator) :
    ((derive settings fresh w').runFrom second).1.map Word.names =
      ((derive settings fresh w).runFrom first).1.map Word.names := by
  have alike := ready.derive_alike ready' (f := id) (N := fun _ => True)
    (by simpa [WrittenRule.rename_id] using spelled) (fun _ _ _ _ equal => equal)
    (fun _ _ _ _ => trivial) known known' (fun _ _ => trivial) (by simpa using same) settings
    fresh
  refine (Corresponds.map_eq (alike.mono ?_ ?_)).symm
  · rintro _ _ ⟨name, rfl, rfl⟩
    rfl
  · intro v v' names
    rw [names, List.map_id]

end System

end GrowthGrammar
