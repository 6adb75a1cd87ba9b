import GrowthGrammar.Proofs.Workspace.Hosts
import GrowthGrammar.Proofs.Workspace.Run

/-!
# Systems that share a table

Several systems of a workspace may share one table, and each of them is used by its own user: names
are entered, rules are registered, and words are grown, all of them given as text.  What one user
does is seen in the table by all of them.

Main statement: no user notices the others (`Workspace.uses_keep_apart`).  Whatever is done with the
other systems in between, each use of a system gives the text or the error that it gives if the
system is alone, and the rules of the system are those that its own user has registered.

What the users of the others do to a system is to bring valid names into its table
(`Hosts.other_use`), which leaves it ready for the same rules (`System.Ready.addAll`).
-/

namespace GrowthGrammar

/-! ## Uses of a system -/

/-- Something that is done with a system. -/
inductive Use
  /-- Enter a name. -/
  | name (d : Datum)
  /-- Register the rule that a text writes. -/
  | rule (text : String)
  /-- Derive the word that a text writes. -/
  | word (text : String) (settings : Schedule) (fresh : Random.Generator)

/-- What a use gives. -/
inductive Answer
  /-- The symbol of a name. -/
  | name (s : Symbol)
  /-- The rule that was registered. -/
  | rule (r : Rule)
  /-- The word that was derived. -/
  | word (w : Word)

/-- The text of an answer, in which no codes are. -/
def Answer.text : Answer → String
  | .name s => s.name
  | .rule r => r.text
  | .word w => w.text

/-- The rules that an outcome has registered. -/
def rulesIn : Except Error Answer → List Rule
  | .ok (.rule r) => [r]
  | _ => []

namespace Use

/-- Do it. -/
def perform : Use → Step System Answer
  | .name d => .name <$> System.onTable (NameTable.enterDatum d)
  | .rule text => .rule <$> System.addText text
  | .word text settings fresh => .word <$> do
    System.derive settings fresh (← System.onTable (NameTable.readWord text))

/-- What it reads into the table. -/
def entry : Use → Entry
  | .name d => .name d
  | .rule text => .rule text
  | .word text _ _ => .word text

end Use

namespace System

/-- What some uses of a system give, one after the other. -/
def answers (system : System) : List Use → List (Except Error Answer)
  | [] => []
  | use :: rest => (use.perform.runFrom system).1 :: answers (use.perform.runFrom system).2 rest

/-- The system after some uses. -/
def afterUses (system : System) (uses : List Use) : System :=
  uses.foldl (fun system use => (use.perform.runFrom system).2) system

end System

namespace Workspace

/-- The workspace after some uses of its systems. -/
def afterUses (ws : Workspace) (uses : List (SystemId × Use)) : Workspace :=
  uses.foldl (fun ws (id, use) => ((onSystem id use.perform).runFrom ws).2) ws

/-- What those of some uses give that are uses of one system. -/
def answersOf (id : SystemId) (ws : Workspace) : List (SystemId × Use) → List (Except Error Answer)
  | [] => []
  | (used, use) :: rest =>
    let (outcome, ws) := (onSystem used use.perform).runFrom ws
    if used = id then outcome :: answersOf id ws rest else answersOf id ws rest

/-- The uses of one system. -/
def usesOf (id : SystemId) (uses : List (SystemId × Use)) : List Use :=
  (uses.filter fun entry => entry.1 = id).map Prod.snd

end Workspace

/-! ## One use of a ready system -/

theorem text_map_name (found : Except Error Symbol) :
    (found.map Answer.name).map Answer.text = found.map Symbol.name := by
  cases found <;> rfl

theorem text_map_word (found : Except Error Word) :
    (found.map Answer.word).map Answer.text =
      (found.map Word.names).map (" ".intercalate ·) := by
  cases found <;> rfl

theorem text_map_rule (found : Except Error Rule) :
    (found.map Answer.rule).map Answer.text = (found.map Rule.written).map WrittenRule.text := by
  cases found with
  | error e => rfl
  | ok r => exact congrArg Except.ok r.text_written.symm

theorem rulesIn_map_name (found : Except Error Symbol) : rulesIn (found.map .name) = [] := by
  cases found <;> rfl

theorem rulesIn_map_word (found : Except Error Word) : rulesIn (found.map .word) = [] := by
  cases found <;> rfl

theorem rulesIn_map_rule (found : Except Error Rule) :
    rulesIn (found.map .rule) = found.toOption.toList := by
  cases found <;> rfl

theorem written_map_toList (found : Except Error Rule) :
    found.toOption.toList.map Rule.written = (found.map Rule.written).toOption.toList := by
  cases found <;> rfl

namespace System

variable {tieBreak : TieBreak} {system after system' after' : System} {rules rules' : List Rule}

/-- A ready system that derives the word of a text is ready for the same rules afterwards, and it
gives the names that every other ready system with rules of the same spelling gives. -/
theorem Ready.deriveText (ready : Ready tieBreak system rules)
    (ready' : Ready tieBreak system' rules')
    (spelled : rules'.map Rule.written = rules.map Rule.written) (text : String)
    (settings : Schedule) (fresh : Random.Generator) {outcome outcome' : Except Error Word}
    (run : (do derive settings fresh (← onTable (NameTable.readWord text))).runFrom system =
      (outcome, after))
    (run' : (do derive settings fresh (← onTable (NameTable.readWord text))).runFrom system' =
      (outcome', after')) :
    Ready tieBreak after rules ∧ outcome'.map Word.names = outcome.map Word.names := by
  rcases read : (onTable (NameTable.readWord text)).runFrom system with ⟨found, between⟩
  rcases read' : (onTable (NameTable.readWord text)).runFrom system' with ⟨found', between'⟩
  obtain ⟨names, still, known⟩ := ready.readWord read
  obtain ⟨names', still', known'⟩ := ready'.readWord read'
  have same := names'.trans names.symm
  cases found with
  | error e =>
    cases found' with
    | ok w' => cases same
    | error e' =>
      obtain rfl : e' = e := Except.error.inj same
      rw [Step.runFrom_bind_error read] at run
      rw [Step.runFrom_bind_error read'] at run'
      cases run
      cases run'
      exact ⟨still, rfl⟩
  | ok w =>
    cases found' with
    | error e' => cases same
    | ok w' =>
      have derived := still.derive_names still' spelled (known w rfl) (known' w' rfl)
        (Except.ok.inj same) settings fresh
      rw [Step.runFrom_bind_ok read] at run
      rw [Step.runFrom_bind_ok read'] at run'
      rw [run, run'] at derived
      refine ⟨?_, derived⟩
      rw [derive_runFrom still.tableFree still.storeFree (known w rfl)] at run
      cases run
      exact still

/-- A ready system is ready after every use, for the rules it had and the one it has accepted. -/
theorem Ready.use (ready : Ready tieBreak system rules) (use : Use)
    {outcome : Except Error Answer} (run : use.perform.runFrom system = (outcome, after)) :
    Ready tieBreak after (rules ++ rulesIn outcome) := by
  cases use with
  | name d =>
    rcases entered : (onTable (NameTable.enterDatum d)).runFrom system with ⟨found, between⟩
    rw [Use.perform, Step.runFrom_map, entered] at run
    cases run
    rw [rulesIn_map_name, List.append_nil]
    exact (ready.enterDatum entered).2
  | rule text =>
    rcases added : (System.addText text).runFrom system with ⟨found, between⟩
    rw [Use.perform, Step.runFrom_map, added] at run
    cases run
    rw [rulesIn_map_rule]
    exact (ready.addText added).2
  | word text settings fresh =>
    rcases derived :
        (do System.derive settings fresh (← onTable (NameTable.readWord text))).runFrom system
      with ⟨found, between⟩
    rw [Use.perform, Step.runFrom_map, derived] at run
    cases run
    rw [rulesIn_map_word, List.append_nil]
    exact (ready.deriveText ready rfl text settings fresh derived derived).1

/-- Ready systems whose rules are spelled alike give answers of the same text to a use, or fail with
the same error, and what they register is spelled alike. -/
theorem Ready.use_alike (ready : Ready tieBreak system rules)
    (ready' : Ready tieBreak system' rules')
    (spelled : rules'.map Rule.written = rules.map Rule.written) (use : Use)
    {outcome outcome' : Except Error Answer}
    (run : use.perform.runFrom system = (outcome, after))
    (run' : use.perform.runFrom system' = (outcome', after')) :
    outcome'.map Answer.text = outcome.map Answer.text ∧
      (rulesIn outcome').map Rule.written = (rulesIn outcome).map Rule.written := by
  cases use with
  | name d =>
    rcases entered : (onTable (NameTable.enterDatum d)).runFrom system with ⟨found, between⟩
    rcases entered' : (onTable (NameTable.enterDatum d)).runFrom system' with ⟨found', between'⟩
    rw [Use.perform, Step.runFrom_map, entered] at run
    rw [Use.perform, Step.runFrom_map, entered'] at run'
    cases run
    cases run'
    rw [rulesIn_map_name, rulesIn_map_name, text_map_name, text_map_name,
      (ready'.enterDatum entered').1, (ready.enterDatum entered).1]
    exact ⟨rfl, rfl⟩
  | rule text =>
    rcases added : (System.addText text).runFrom system with ⟨found, between⟩
    rcases added' : (System.addText text).runFrom system' with ⟨found', between'⟩
    rw [Use.perform, Step.runFrom_map, added] at run
    rw [Use.perform, Step.runFrom_map, added'] at run'
    cases run
    cases run'
    have same := (ready'.addText added').1.trans (ready.addText added).1.symm
    rw [rulesIn_map_rule, rulesIn_map_rule, text_map_rule, text_map_rule, written_map_toList,
      written_map_toList, same]
    exact ⟨rfl, rfl⟩
  | word text settings fresh =>
    rcases derived :
        (do System.derive settings fresh (← onTable (NameTable.readWord text))).runFrom system
      with ⟨found, between⟩
    rcases derived' :
        (do System.derive settings fresh (← onTable (NameTable.readWord text))).runFrom system'
      with ⟨found', between'⟩
    rw [Use.perform, Step.runFrom_map, derived] at run
    rw [Use.perform, Step.runFrom_map, derived'] at run'
    cases run
    cases run'
    have same := (ready.deriveText ready' spelled text settings fresh derived derived').2
    rw [rulesIn_map_word, rulesIn_map_word, text_map_word, text_map_word, same]
    exact ⟨rfl, rfl⟩

end System

/-! ## One use in a workspace -/

/-- A use leaves the table of a system as reading its entry does, and takes no lock. -/
theorem Use.state {system : System} (tableFree : system.table.lock.IsFree)
    (storeFree : system.store.guarded.lock.IsFree) (use : Use) :
    (use.perform.runFrom system).2.table = system.table.addAll use.entry.names ∧
      (use.perform.runFrom system).2.store.guarded.lock.IsFree := by
  rw [← Entry.perform_runFrom tableFree use.entry]
  cases use with
  | name d =>
    rw [entry, Entry.perform, Step.state_of_discard, perform, Step.runFrom_map]
    exact ⟨rfl, storeFree⟩
  | rule text =>
    rw [entry, Entry.perform, Step.state_of_discard, perform, Step.runFrom_map]
    exact System.addText_state tableFree storeFree text
  | word text settings fresh =>
    rw [entry, Entry.perform, Step.state_of_discard, perform, Step.runFrom_map]
    cases checked : checkNames (tokensOf text.toList) with
    | error fault =>
      have refused := NameTable.readWord_runFrom_of_fault system.table checked
      rw [Step.runFrom_bind_error (System.onTable_runFrom refused), refused]
      exact ⟨rfl, storeFree⟩
    | ok _ =>
      have read := NameTable.readWord_runFrom tableFree ((checkNames_eq_ok_iff _).mp checked)
      let grown : System := { system with table := system.table.addAll (tokensOf text.toList) }
      have known : grown.Knows (system.table.value.wordOf (tokensOf text.toList)) :=
        fun s member => Vocabulary.contains_of_mem_wordOf member
      have grownFree : grown.table.lock.IsFree := tableFree
      have derived := System.derive_runFrom grownFree storeFree known settings fresh
      rw [Step.runFrom_bind_ok (System.onTable_runFrom read), read, derived]
      exact ⟨rfl, storeFree⟩

namespace Workspace

variable {ws : Workspace} {id other : SystemId} {table : TableId} {system : System}

/-- A use keeps what calls keep. -/
theorem Lawful.use (lawful : ws.Lawful) (id : SystemId) (use : Use) :
    ((onSystem id use.perform).runFrom ws).2.Lawful := by
  obtain ⟨stores, free, state⟩ := onSystem_state lawful id (·.addAll use.entry.names)
    fun system tableFree storeFree => use.state tableFree storeFree
  rw [state]
  refine ⟨?_, free, lawful.families⟩
  cases ws.stores[id.index]? with
  | none => exact lawful.tables
  | some entry =>
    have valid : ∀ names ∈ some (entry.1, use.entry.names), ∀ name ∈ names.2,
        Name.IsValid name := by
      simpa using Entry.valid_of_mem_names use.entry
    exact lawful.enterAt valid

/-- A use of another system brings valid names into the table of a system, or does nothing to it. -/
theorem Hosts.other_use (hosts : ws.Hosts id table system) (lawful : ws.Lawful) (others : other ≠ id)
    (use : Use) :
    ∃ names, (∀ name ∈ names, Name.IsValid name) ∧
      ((onSystem other use.perform).runFrom ws).2.Hosts id table
        { system with table := system.table.addAll names } := by
  have elsewhere : other.index ≠ id.index := by
    cases other
    cases id
    simpa using others
  have unchanged : ∃ names : List String, (∀ name ∈ names, Name.IsValid name) ∧
      ws.Hosts id table { system with table := system.table.addAll names } :=
    ⟨[], by simp, hosts⟩
  rw [onSystem, Step.runFrom_ofRun]
  cases found : ws.stores[other.index]? with
  | none => exact unchanged
  | some entry =>
    obtain ⟨otherTable, store⟩ := entry
    simp only
    cases foundTable : ws.tables[otherTable.index]? with
    | none => exact unchanged
    | some t =>
      have tableFree := (lawful.tables t (Array.mem_of_getElem? foundTable)).1
      have storeFree := lawful.stores _ (Array.mem_of_getElem? found)
      have theirsFree : (⟨t, store⟩ : System).table.lock.IsFree := tableFree
      have entered : (use.perform.runFrom ⟨t, store⟩).2.table = t.addAll use.entry.names :=
        (use.state theirsFree storeFree).1
      have sameStore : (ws.stores.setIfInBounds other.index (otherTable,
          (use.perform.runFrom ⟨t, store⟩).2.store))[id.index]? = some (table, system.store) := by
        rw [Array.getElem?_setIfInBounds_ne elsewhere]
        exact hosts.store
      -- The two systems may share their table, but never their store.
      by_cases shared : otherTable.index = table.index
      · have same : t = system.table := by
          rw [shared, hosts.table] at foundTable
          exact (Option.some.inj foundTable).symm
        refine ⟨use.entry.names, use.entry.valid_of_mem_names, sameStore, ?_⟩
        have inside := (Array.getElem?_eq_some_iff.mp hosts.table).1
        rw [same] at entered
        simp [entered, shared, inside, same]
      · refine ⟨[], by simp, sameStore, ?_⟩
        simp only
        rw [Array.getElem?_setIfInBounds_ne shared]
        exact hosts.table

/-! ## Any number of uses -/

theorem usesOf_cons_self (id : SystemId) (use : Use) (rest : List (SystemId × Use)) :
    usesOf id ((id, use) :: rest) = use :: usesOf id rest := by
  simp [usesOf]

theorem usesOf_cons_other (others : other ≠ id) (use : Use) (rest : List (SystemId × Use)) :
    usesOf id ((other, use) :: rest) = usesOf id rest := by
  simp [usesOf, others]

theorem answersOf_cons_self {use : Use} {outcome : Except Error Answer} {now : Workspace}
    (run : (onSystem id use.perform).runFrom ws = (outcome, now)) (rest : List (SystemId × Use)) :
    ws.answersOf id ((id, use) :: rest) = outcome :: now.answersOf id rest := by
  simp [answersOf, run]

theorem answersOf_cons_other (others : other ≠ id) (use : Use) (rest : List (SystemId × Use)) :
    ws.answersOf id ((other, use) :: rest) =
      ((onSystem other use.perform).runFrom ws).2.answersOf id rest := by
  simp [answersOf, others]

theorem afterUses_cons (id : SystemId) (use : Use) (rest : List (SystemId × Use)) :
    ws.afterUses ((id, use) :: rest) =
      ((onSystem id use.perform).runFrom ws).2.afterUses rest := rfl

/-- A ready system of a workspace and another one alone that starts with rules of the same spelling
go on alike: the answers have the same texts, and what is registered is spelled alike. -/
theorem Hosts.uses {alone : System} {tieBreak : TieBreak} {rules rules' : List Rule}
    (hosts : ws.Hosts id table system) (lawful : ws.Lawful) (ready : system.Ready tieBreak rules)
    (ready' : alone.Ready tieBreak rules')
    (spelled : rules'.map Rule.written = rules.map Rule.written) (uses : List (SystemId × Use)) :
    (ws.answersOf id uses).map (Except.map Answer.text) =
        (alone.answers (usesOf id uses)).map (Except.map Answer.text) ∧
      ∃ last added', (ws.afterUses uses).Hosts id table last ∧
        last.Ready tieBreak (rules ++ (ws.answersOf id uses).flatMap rulesIn) ∧
        (alone.afterUses (usesOf id uses)).Ready tieBreak (rules' ++ added') ∧
        added'.map Rule.written = ((ws.answersOf id uses).flatMap rulesIn).map Rule.written := by
  induction uses generalizing ws system alone rules rules' with
  | nil =>
    rw [← List.append_nil rules] at ready
    rw [← List.append_nil rules'] at ready'
    exact ⟨rfl, system, [], hosts, ready, ready', rfl⟩
  | cons entry rest ih =>
    obtain ⟨used, use⟩ := entry
    have stillLawful := lawful.use used use
    by_cases own : used = id
    -- A use of the system is the same step of the system alone.
    · subst own
      rcases run : use.perform.runFrom system with ⟨outcome, next⟩
      rcases run' : use.perform.runFrom alone with ⟨outcome', next'⟩
      have here := hosts.onSystem_runFrom use.perform
      have stillHosts := hosts.withSystem next
      obtain ⟨sameText, sameRules⟩ := ready.use_alike ready' spelled use run run'
      rw [run] at here
      rw [here] at stillLawful
      have stillSpelled : (rules' ++ rulesIn outcome').map Rule.written =
          (rules ++ rulesIn outcome).map Rule.written := by
        rw [List.map_append, List.map_append, spelled, sameRules]
      obtain ⟨texts, last, added', hostsLast, readyLast, readyLast', sameAdded⟩ :=
        ih stillHosts stillLawful (ready.use use run) (ready'.use use run') stillSpelled
      rw [usesOf_cons_self, System.answers, System.afterUses, List.foldl_cons, run',
        answersOf_cons_self here, afterUses_cons, here]
      refine ⟨?_, last, rulesIn outcome' ++ added', hostsLast, ?_, ?_, ?_⟩
      · rw [List.map_cons, List.map_cons, sameText, texts]
      · simpa using readyLast
      · rwa [List.append_assoc] at readyLast'
      · rw [List.map_append, sameRules, sameAdded, List.flatMap_cons, List.map_append]
    -- A use of another system is no step of the system alone, and its names do no harm.
    · obtain ⟨names, valid, stillHosts⟩ := hosts.other_use lawful own use
      rw [usesOf_cons_other own, answersOf_cons_other own, afterUses_cons]
      exact ih stillHosts stillLawful (ready.addAll valid) ready' spelled

/-- Whatever is done with the other systems of a workspace in between, each use of a new system gives
the same text or the same error as if the system were alone on a table of its own.  Its rules are
those that its own uses have registered, and have the names that they have in the system alone. -/
theorem uses_keep_apart (lawful : ws.Lawful) {t : NameTable} {tieBreak : TieBreak} {timeout : Timeout}
    (store : ws.stores[id.index]? = some (table, RuleStore.new tieBreak timeout))
    (there : ws.tables[table.index]? = some t) (uses : List (SystemId × Use)) :
    (ws.answersOf id uses).map (Except.map Answer.text) =
        ((System.new tieBreak timeout).answers (usesOf id uses)).map (Except.map Answer.text) ∧
      ∃ listing, ((onSystem id (System.onStore RuleStore.toList)).runFrom (ws.afterUses uses)).1 =
          .ok listing ∧
        listing = (RuleSet.ofList ((ws.answersOf id uses).flatMap rulesIn)).toList ∧
        listing.Perm ((ws.answersOf id uses).flatMap rulesIn) ∧
        ((System.onStore RuleStore.toList).runFrom
            ((System.new tieBreak timeout).afterUses (usesOf id uses))).1.map (List.map Rule.written) =
          .ok (listing.map Rule.written) := by
  obtain ⟨free, sound⟩ := lawful.tables t (Array.mem_of_getElem? there)
  have hosts : ws.Hosts id table ⟨t, RuleStore.new tieBreak timeout⟩ := ⟨store, there⟩
  have ready := System.ready_new free sound tieBreak timeout
  have alone : (System.new tieBreak timeout).Ready tieBreak [] :=
    System.ready_new (Lock.free_isFree _ _) Vocabulary.empty_sound tieBreak timeout
  obtain ⟨texts, last, added', hostsLast, readyLast, readyLast', sameAdded⟩ :=
    hosts.uses lawful ready alone rfl uses
  rw [List.nil_append] at readyLast readyLast'
  have listed := hostsLast.onSystem_runFrom (System.onStore RuleStore.toList)
  rw [readyLast.toList_runFrom] at listed
  refine ⟨texts, _, by rw [listed], rfl, RuleSet.toList_ofList_perm _, ?_⟩
  rw [readyLast'.toList_runFrom]
  exact congrArg Except.ok (readyLast.listing_written readyLast' sameAdded)

/-- Two new systems on one table, with different tie-breaks. -/
def siblings : Workspace :=
  empty.afterAll [
    .newTable .forever,
    .newSystem ⟨0⟩ .latest .forever,
    .newSystemBeside ⟨0⟩ (some .pool) .forever]

/-- Uses of both, of which those of the second system bring names that the first one uses later,
and one registers nothing. -/
def mixedUses : List (SystemId × Use) := [
  (⟨1⟩, .name (.text "F")),
  (⟨1⟩, .rule "X -> X X"),
  (⟨0⟩, .rule "X -> F X"),
  (⟨1⟩, .rule "F -> -1 G"),
  (⟨0⟩, .word "X G" ⟨2, some 7⟩ (.ofSeed 0)),
  (⟨1⟩, .word "X" ⟨1, some 7⟩ (.ofSeed 0))]

/-- The first of the two systems. -/
theorem uses_keep_apart_of_siblings :
    (siblings.answersOf ⟨0⟩ mixedUses).map (fun outcome => (outcome.map Answer.text).toOption) =
        [some "X -> F X", some "F F X G"] ∧
      (siblings.answersOf ⟨0⟩ mixedUses).map (Except.map Answer.text) =
        ((System.new .latest .forever).answers (usesOf ⟨0⟩ mixedUses)).map
          (Except.map Answer.text) := by
  let first : SystemId := ⟨0⟩
  have store : siblings.stores[first.index]? = some (⟨0⟩, RuleStore.new .latest .forever) := rfl
  have there : siblings.tables[0]? = some (NameTable.new .forever) := rfl
  have apart := uses_keep_apart (empty_lawful.afterAll _) store there mixedUses
  exact ⟨by decide +kernel, apart.1⟩

end Workspace

end GrowthGrammar
