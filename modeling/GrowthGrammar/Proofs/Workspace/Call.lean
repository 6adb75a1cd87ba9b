import GrowthGrammar.Proofs.Entry
import GrowthGrammar.Workspace

/-!
# Calls on a workspace

A run is a sequence of calls on a workspace, made one after the other, each of which may
be refused.  A call can make a new table, or bring names into one of the tables there
are, or leave all tables alone.  Which names it brings into which table is said by
`Call.enters`.

What every call keeps is `Workspace.Lawful`: nobody holds a lock, all vocabularies are
sound, and families only describe valid names.  The last of these matters because a
system of a family enters the described names without looking at them again.
-/

namespace GrowthGrammar

/-! ## Calls -/

/-- A call on a workspace. -/
inductive Call
  /-- Make a table. -/
  | newTable (timeout : Timeout)
  /-- Make a system on a table. -/
  | newSystem (table : TableId) (tieBreak : TieBreak) (timeout : Timeout)
  /-- Make a system on the table of another. -/
  | newSystemBeside (system : SystemId) (tieBreak : Option TieBreak) (timeout : Timeout)
  /-- Make a family with a table of its own. -/
  | newFamily (name : String)
  /-- Describe a symbol of a family. -/
  | describe (family : FamilyId) (name : Datum) (use : SymbolUse) (words : Option String)
  /-- Register a family. -/
  | enroll (family : FamilyId)
  /-- Forget a registered family. -/
  | withdraw (name : String)
  /-- Read something into a table. -/
  | read (table : TableId) (entry : Entry)
  /-- Register the rule that a text writes. -/
  | addText (system : SystemId) (text : String)
  /-- Make a system on the table of a family. -/
  | systemOfFamily (family : FamilyId) (tieBreak : TieBreak)
  /-- Make a system on the table of a registered family. -/
  | systemOfRegistered (name : String) (tieBreak : TieBreak)

namespace Call

/-- Make a call, whatever it gives. -/
def perform : Call → Step Workspace Unit
  | .newTable timeout => do let _ ← Workspace.newTable timeout
  | .newSystem table tieBreak timeout => do
    let _ ← Workspace.newSystemOn table tieBreak timeout
  | .newSystemBeside system tieBreak timeout => do
    let _ ← Workspace.newSystemBeside system tieBreak timeout
  | .newFamily name => do let _ ← Workspace.newFamily name
  | .describe family name use words =>
    Workspace.onFamily family (Family.describe name use words)
  | .enroll family => Workspace.enroll family
  | .withdraw name => do let _ ← Workspace.withdraw name
  | .read table entry => Workspace.onTable table entry.perform
  | .addText system text => do let _ ← Workspace.onSystem system (System.addText text)
  | .systemOfFamily family tieBreak => do let _ ← Workspace.systemOfFamily family tieBreak
  | .systemOfRegistered name tieBreak => do
    let _ ← Workspace.systemOfRegistered name tieBreak

/-- The workspace after a call. -/
def after (call : Call) (ws : Workspace) : Workspace := (call.perform.runFrom ws).2

end Call

/-! ## Names that a call brings -/

/-- The name that a datum adds to the descriptions of a family. -/
def Family.newlyDescribed (f : Family) (name : Datum) : List String :=
  (Entry.name name).names.filter fun name => !f.describes name

/-- The names that a family describes. -/
def Family.names (f : Family) : List String := f.descriptions.map Description.name

/-- The table that a call brings names into, and the names. -/
def Call.enters (ws : Workspace) : Call → Option (TableId × List String)
  | .describe family name _ _ =>
    ws.families[family.index]?.map fun (table, f) => (table, f.newlyDescribed name)
  | .read table entry => some (table, entry.names)
  | .addText system text =>
    ws.stores[system.index]?.map fun (table, _) => (table, (Entry.rule text).names)
  | .systemOfFamily family _ =>
    ws.families[family.index]?.map fun (table, f) => (table, f.names)
  | .systemOfRegistered name _ => do
    let family ← Datum.getField? name ws.registry
    ws.families[family.index]?.map fun (table, f) => (table, f.names)
  | _ => none

namespace Workspace

/-- What calls keep: locks are free, vocabularies are sound, and what families describe
are valid names. -/
structure Lawful (ws : Workspace) : Prop where
  /-- The tables are free and sound. -/
  tables : ∀ t ∈ ws.tables, t.lock.IsFree ∧ t.value.Sound
  /-- The stores are free. -/
  stores : ∀ entry ∈ ws.stores, entry.2.guarded.lock.IsFree
  /-- The families describe valid names. -/
  families : ∀ entry ∈ ws.families, ∀ name ∈ entry.2.names, Name.IsValid name

theorem empty_lawful : empty.Lawful :=
  ⟨by simp [empty], by simp [empty], by simp [empty]⟩

/-- The tables after some names were brought into one of them. -/
def enterAt (tables : Array NameTable) : Option (TableId × List String) → Array NameTable
  | none => tables
  | some (id, names) => tables.modify id.index (·.addAll names)

/-- What a call makes of a workspace: one more table, or names brought into one of the
tables there were. -/
structure Grows (before after : Workspace) (entered : Option (TableId × List String)) :
    Prop where
  /-- What calls keep is kept. -/
  lawful : after.Lawful
  /-- Only valid names are brought in. -/
  valid : ∀ names ∈ entered, ∀ name ∈ names.2, Name.IsValid name
  /-- The tables that there are afterwards. -/
  tables : after.tables = enterAt before.tables entered ∨
    entered = none ∧ ∃ timeout, after.tables = before.tables.push (NameTable.new timeout)

/-! ## Computations on a part -/

theorem setIfInBounds_eq_modify {α : Type} {xs : Array α} {i : Nat} {x : α}
    (found : xs[i]? = some x) (f : α → α) : xs.setIfInBounds i (f x) = xs.modify i f := by
  apply Array.ext_getElem?
  intro j
  rw [Array.getElem?_setIfInBounds, Array.getElem?_modify]
  by_cases here : i = j
  · subst here
    obtain ⟨inside, same⟩ := Array.getElem?_eq_some_iff.mp found
    simp [inside, same]
  · simp [here]

theorem modify_of_missing {α : Type} {xs : Array α} {i : Nat} (missing : xs[i]? = none)
    (f : α → α) : xs.modify i f = xs := by
  apply Array.ext_getElem?
  intro j
  rw [Array.getElem?_modify]
  by_cases here : i = j
  · subst here
    simp [missing]
  · simp [here]

theorem modify_same {α : Type} (xs : Array α) (i : Nat) : (xs.modify i fun x => x) = xs := by
  apply Array.ext_getElem?
  intro j
  rw [Array.getElem?_modify]
  split <;> simp

theorem setIfInBounds_eq_self {α : Type} {xs : Array α} {i : Nat} {x : α}
    (found : xs[i]? = some x) : xs.setIfInBounds i x = xs := by
  rw [setIfInBounds_eq_modify found fun x => x, modify_same]

/-- A computation on a table changes that table and nothing else. -/
theorem onTable_state {α : Type} {ws : Workspace} {id : TableId} {step : Step NameTable α}
    {change : NameTable → NameTable}
    (changes : ∀ t ∈ ws.tables, (step.runFrom t).2 = change t) :
    ((onTable id step).runFrom ws).2 = { ws with tables := ws.tables.modify id.index change } := by
  rw [onTable, Step.runFrom_ofRun]
  cases found : ws.tables[id.index]? with
  | none => rw [modify_of_missing found]
  | some t =>
    have changed := changes t (Array.mem_of_getElem? found)
    rw [← setIfInBounds_eq_modify found, ← changed]

/-- A computation on a system changes its table and its store and nothing else. -/
theorem onSystem_state {α : Type} {ws : Workspace} (lawful : ws.Lawful) (id : SystemId)
    {step : Step System α} (change : NameTable → NameTable)
    (changes : ∀ system : System, system.table.lock.IsFree → system.store.guarded.lock.IsFree →
      (step.runFrom system).2.table = change system.table ∧
        (step.runFrom system).2.store.guarded.lock.IsFree) :
    ∃ stores : Array (TableId × RuleStore), (∀ entry ∈ stores, entry.2.guarded.lock.IsFree) ∧
      ((onSystem id step).runFrom ws).2 =
        { ws with
          tables := (ws.stores[id.index]?.map Prod.fst).elim ws.tables
            fun table => ws.tables.modify table.index change
          stores := stores } := by
  rw [onSystem, Step.runFrom_ofRun]
  cases found : ws.stores[id.index]? with
  | none => exact ⟨ws.stores, lawful.stores, rfl⟩
  | some entry =>
    obtain ⟨table, store⟩ := entry
    simp only [Option.map_some, Option.elim_some]
    cases foundTable : ws.tables[table.index]? with
    | none => exact ⟨ws.stores, lawful.stores, by rw [modify_of_missing foundTable]⟩
    | some t =>
      have tableFree := (lawful.tables t (Array.mem_of_getElem? foundTable)).1
      have storeFree := lawful.stores _ (Array.mem_of_getElem? found)
      obtain ⟨changed, stillFree⟩ := changes ⟨t, store⟩ tableFree storeFree
      refine ⟨ws.stores.setIfInBounds id.index (table, (step.runFrom ⟨t, store⟩).2.store), ?_, ?_⟩
      · intro entry member
        rcases Array.mem_or_eq_of_mem_setIfInBounds member with old | rfl
        · exact lawful.stores entry old
        · exact stillFree
      · rw [← setIfInBounds_eq_modify foundTable, ← changed]

theorem onFamily_runFrom {α : Type} {ws : Workspace} {id : FamilyId} {table : TableId} {f : Family}
    {t : NameTable} (found : ws.families[id.index]? = some (table, f))
    (foundTable : ws.tables[table.index]? = some t) (step : Step (Family × NameTable) α) :
    (onFamily id step).runFrom ws =
      ((step.runFrom (f, t)).1,
        { ws with
          tables := ws.tables.setIfInBounds table.index (step.runFrom (f, t)).2.2
          families := ws.families.setIfInBounds id.index (table, (step.runFrom (f, t)).2.1) }) := by
  simp only [onFamily, Step.runFrom_ofRun, found, foundTable]

theorem onFamily_runFrom_of_missing {α : Type} {ws : Workspace} {id : FamilyId}
    (missing : (ws.families[id.index]?.bind fun entry => ws.tables[entry.1.index]?) = none)
    (step : Step (Family × NameTable) α) :
    (onFamily id step).runFrom ws = (.error .missingKey, ws) := by
  rw [onFamily, Step.runFrom_ofRun]
  cases found : ws.families[id.index]? with
  | none => rfl
  | some entry =>
    rw [found, Option.bind_some] at missing
    simp only [missing]

/-! ## What each call does -/

theorem Lawful.enterAt {ws : Workspace} (lawful : ws.Lawful)
    {entered : Option (TableId × List String)}
    (valid : ∀ names ∈ entered, ∀ name ∈ names.2, Name.IsValid name) :
    ∀ t ∈ enterAt ws.tables entered, t.lock.IsFree ∧ t.value.Sound := by
  cases entered with
  | none => exact lawful.tables
  | some names =>
    obtain ⟨id, names⟩ := names
    intro t member
    obtain ⟨i, found⟩ := Array.mem_iff_getElem?.mp member
    rw [Workspace.enterAt, Array.getElem?_modify] at found
    split at found
    · obtain ⟨old, oldFound, rfl⟩ := Option.map_eq_some_iff.mp found
      obtain ⟨free, sound⟩ := lawful.tables old (Array.mem_of_getElem? oldFound)
      exact ⟨free, sound.addAll (valid _ rfl)⟩
    · exact lawful.tables t (Array.mem_of_getElem? found)

/-- A call that only changes what is written on tables, stores and the registry. -/
theorem Lawful.grows {before after : Workspace} (lawful : before.Lawful)
    {entered : Option (TableId × List String)}
    (valid : ∀ names ∈ entered, ∀ name ∈ names.2, Name.IsValid name)
    (tables : after.tables = Workspace.enterAt before.tables entered)
    (stores : ∀ entry ∈ after.stores, entry.2.guarded.lock.IsFree)
    (families : ∀ entry ∈ after.families, ∀ name ∈ entry.2.names, Name.IsValid name) :
    Grows before after entered :=
  ⟨⟨fun t member => lawful.enterAt valid t (tables ▸ member), stores, families⟩, valid, .inl tables⟩

theorem Lawful.withStore {ws : Workspace} (lawful : ws.Lawful) (table : TableId)
    (tieBreak : TieBreak) (timeout : Timeout) :
    ∀ entry ∈ ws.stores.push (table, RuleStore.new tieBreak timeout),
      entry.2.guarded.lock.IsFree := by
  intro entry member
  rcases Array.mem_push.mp member with old | rfl
  · exact lawful.stores entry old
  · exact Lock.free_isFree _ _

theorem Lawful.withTable {ws : Workspace} (lawful : ws.Lawful) (timeout : Timeout) :
    ∀ t ∈ ws.tables.push (NameTable.new timeout), t.lock.IsFree ∧ t.value.Sound := by
  intro t member
  rcases Array.mem_push.mp member with old | rfl
  · exact lawful.tables t old
  · exact ⟨Lock.free_isFree _ _, Vocabulary.empty_sound⟩

/-- The registry plays no part in what calls keep. -/
theorem Lawful.withRegistry {ws : Workspace} (lawful : ws.Lawful)
    (registry : List (String × FamilyId)) : ({ ws with registry := registry } : Workspace).Lawful :=
  ⟨lawful.tables, lawful.stores, lawful.families⟩

/-- Describing a name adds it to the family and to the table, unless it is refused. -/
theorem describe_state {f : Family} {t : NameTable} (free : t.lock.IsFree) (name : Datum)
    (use : SymbolUse) (words : Option String) :
    ((Family.describe name use words).runFrom (f, t)).2 =
      ({ f with descriptions := f.descriptions ++
          (f.newlyDescribed name).map fun name => ⟨name, use, words⟩ },
        t.addAll (f.newlyDescribed name)) := by
  rw [Family.describe]
  cases named : Name.ofDatum name with
  | error fault => simp [Family.newlyDescribed, Entry.names, Entry.namesIn, named]
  | ok found =>
    by_cases known : f.describes found = true
    · simp [Family.newlyDescribed, Entry.names, Entry.namesIn, named, known, Step.runFrom_bind]
    · have entered := NameTable.enter_runFrom free (Name.ofDatum_valid named)
      simp [Family.newlyDescribed, Entry.names, Entry.namesIn, named, known, Step.runFrom_bind,
        entered]

theorem Lawful.grows_describe {ws : Workspace} (lawful : ws.Lawful) (family : FamilyId)
    (name : Datum) (use : SymbolUse) (words : Option String) :
    Grows ws ((Call.describe family name use words).after ws)
      ((Call.describe family name use words).enters ws) := by
  rw [Call.after, Call.perform, Call.enters]
  cases found : ws.families[family.index]? with
  | none =>
    rw [onFamily_runFrom_of_missing (by simp [found])]
    exact lawful.grows (by simp) rfl lawful.stores lawful.families
  | some entry =>
    obtain ⟨table, f⟩ := entry
    have valid : ∀ other ∈ f.newlyDescribed name, Name.IsValid other :=
      fun other member => Entry.valid_of_mem_names _ other (List.mem_filter.mp member).1
    cases foundTable : ws.tables[table.index]? with
    | none =>
      rw [onFamily_runFrom_of_missing (by simp [found, foundTable])]
      refine lawful.grows (by simpa using valid) ?_ lawful.stores lawful.families
      simp [Workspace.enterAt, modify_of_missing foundTable]
    | some t =>
      have free := (lawful.tables t (Array.mem_of_getElem? foundTable)).1
      rw [onFamily_runFrom found foundTable, describe_state free]
      refine lawful.grows (by simpa using valid) ?_ lawful.stores ?_
      · exact setIfInBounds_eq_modify foundTable (·.addAll (f.newlyDescribed name))
      · intro entry member
        rcases Array.mem_or_eq_of_mem_setIfInBounds member with old | rfl
        · exact lawful.families entry old
        · intro other described
          simp only [Family.names, List.map_append, List.mem_append, List.map_map,
            Function.comp_def, List.map_id'] at described
          rcases described with old | new
          · exact lawful.families _ (Array.mem_of_getElem? found) other old
          · exact valid other new

/-- Registering the rule that a text writes brings its names into the table. -/
theorem Lawful.grows_addText {ws : Workspace} (lawful : ws.Lawful) (system : SystemId)
    (text : String) :
    Grows ws ((Call.addText system text).after ws) ((Call.addText system text).enters ws) := by
  have changes (system : System) (tableFree : system.table.lock.IsFree)
      (storeFree : system.store.guarded.lock.IsFree) :
      ((System.addText text).runFrom system).2.table =
          system.table.addAll (Entry.rule text).names ∧
        ((System.addText text).runFrom system).2.store.guarded.lock.IsFree := by
    have read := Entry.perform_runFrom tableFree (Entry.rule text)
    rw [Entry.perform, Step.state_of_discard] at read
    rw [← read]
    exact System.addText_state tableFree storeFree text
  obtain ⟨stores, free, state⟩ :=
    onSystem_state lawful system (·.addAll (Entry.rule text).names) changes
  rw [Call.after, Call.perform, Step.state_of_discard, state, Call.enters]
  refine lawful.grows ?_ ?_ free lawful.families
  · cases ws.stores[system.index]? with
    | none => simp
    | some entry => simpa using Entry.valid_of_mem_names (.rule text)
  · cases ws.stores[system.index]? <;> rfl

/-- Entering names in the table of a system is entering them in a table. -/
theorem enterNames_state {ws : Workspace} (lawful : ws.Lawful) (id : SystemId)
    {names : List String} (valid : ∀ name ∈ names, Name.IsValid name) :
    ∃ stores : Array (TableId × RuleStore), (∀ entry ∈ stores, entry.2.guarded.lock.IsFree) ∧
      ((enterNames id names).runFrom ws).2 =
        { ws with
          tables := (ws.stores[id.index]?.map Prod.fst).elim ws.tables
            fun table => ws.tables.modify table.index (·.addAll names)
          stores := stores } := by
  refine onSystem_state lawful id (·.addAll names) fun system tableFree storeFree => ?_
  rw [Step.state_of_discard, System.onTable, Step.runFrom_on,
    NameTable.enterAll_runFrom tableFree valid]
  exact ⟨rfl, storeFree⟩

theorem family_runFrom {ws : Workspace} {id : FamilyId} {table : TableId} {f : Family}
    {t : NameTable} (found : ws.families[id.index]? = some (table, f))
    (foundTable : ws.tables[table.index]? = some t) : (family id).runFrom ws = (.ok f, ws) := by
  rw [family, onFamily_runFrom found foundTable]
  simp only [Step.runFrom_bind, Step.runFrom_get, Step.runFrom_pure,
    setIfInBounds_eq_self foundTable, setIfInBounds_eq_self found]

/-- Looking at a family changes nothing. -/
theorem family_state (ws : Workspace) (id : FamilyId) : ((family id).runFrom ws).2 = ws := by
  cases missing : ws.families[id.index]?.bind fun entry => ws.tables[entry.1.index]? with
  | none => rw [family, onFamily_runFrom_of_missing missing]
  | some t =>
    obtain ⟨⟨table, f⟩, found, foundTable⟩ := Option.bind_eq_some_iff.mp missing
    rw [family_runFrom found foundTable]

/-- A new system of a family brings the described names into the table of the family. -/
theorem Lawful.grows_systemOfFamily {ws : Workspace} (lawful : ws.Lawful) (id : FamilyId)
    (tieBreak : TieBreak) :
    Grows ws ((systemOfFamily id tieBreak).runFrom ws).2
      (ws.families[id.index]?.map fun (table, f) => (table, f.names)) := by
  rw [systemOfFamily]
  cases found : ws.families[id.index]? with
  | none =>
    have missing : (tableOfFamily id).runFrom ws = (.error .missingKey, ws) := by
      simp [tableOfFamily, found]
    rw [Step.runFrom_bind_error missing]
    exact lawful.grows (by simp) rfl lawful.stores lawful.families
  | some entry =>
    obtain ⟨table, f⟩ := entry
    have valid : ∀ name ∈ f.names, Name.IsValid name :=
      lawful.families _ (Array.mem_of_getElem? found)
    have there : (tableOfFamily id).runFrom ws = (.ok table, ws) := by
      simp [tableOfFamily, found]
    let store := RuleStore.new tieBreak Configuration.standard.timeout
    let opened : Workspace := { ws with stores := ws.stores.push (table, store) }
    have openedLawful : opened.Lawful :=
      ⟨lawful.tables, lawful.withStore table tieBreak _, lawful.families⟩
    have made : (newSystemOn table tieBreak Configuration.standard.timeout).runFrom ws =
        (.ok ⟨ws.stores.size⟩, opened) := rfl
    rw [Step.runFrom_bind_ok there, Step.runFrom_bind_ok made]
    cases foundTable : ws.tables[table.index]? with
    | none =>
      have refused : (family id).runFrom opened = (.error .missingKey, opened) :=
        onFamily_runFrom_of_missing (by simp [opened, found, foundTable]) _
      rw [Step.runFrom_bind_error refused]
      refine lawful.grows (by simpa using valid) ?_ openedLawful.stores lawful.families
      simp [Workspace.enterAt, opened, modify_of_missing foundTable]
    | some t =>
      have seen : (family id).runFrom opened = (.ok f, opened) :=
        family_runFrom found foundTable
      obtain ⟨stores, free, state⟩ := enterNames_state openedLawful ⟨ws.stores.size⟩ valid
      have entered : ((do
          let _ ← enterNames ⟨ws.stores.size⟩ f.names
          return (⟨ws.stores.size⟩ : SystemId)).runFrom opened).2 =
            { ws with
              tables := Workspace.enterAt ws.tables (some (table, f.names))
              stores := stores } := by
        simp [state, opened, Workspace.enterAt]
      rw [Step.runFrom_bind_ok seen, show f.descriptions.map Description.name = f.names from rfl,
        entered]
      exact lawful.grows (by simpa using valid) rfl free lawful.families

/-- The workspace is lawful and has these tables. -/
def Holding (tables : Array NameTable) (ws : Workspace) : Prop :=
  ws.Lawful ∧ ws.tables = tables

/-- A call that leaves all tables alone. -/
theorem Lawful.grows_of_preserves {α : Type} {ws : Workspace} (lawful : ws.Lawful)
    {x : Step Workspace α} (preserves : x.Preserves (Holding ws.tables)) :
    Grows ws (x.runFrom ws).2 none := by
  obtain ⟨stillLawful, same⟩ := preserves ws ⟨lawful, rfl⟩
  exact ⟨stillLawful, by simp, .inl same⟩

theorem newSystemOn_preserves (tables : Array NameTable) (table : TableId) (tieBreak : TieBreak)
    (timeout : Timeout) : (newSystemOn table tieBreak timeout).Preserves (Holding tables) := by
  rintro ws ⟨lawful, same⟩
  exact ⟨⟨lawful.tables, lawful.withStore table tieBreak timeout, lawful.families⟩, same⟩

theorem tieBreakOf_preserves (tables : Array NameTable) (id : SystemId) :
    (tieBreakOf id).Preserves (Holding tables) := by
  rintro ws ⟨lawful, same⟩
  let ask : Step System TieBreak := do return (← get).store.tieBreak
  have changes (system : System) (_ : system.table.lock.IsFree)
      (storeFree : system.store.guarded.lock.IsFree) :
      (ask.runFrom system).2.table = system.table ∧
        (ask.runFrom system).2.store.guarded.lock.IsFree :=
    ⟨rfl, storeFree⟩
  obtain ⟨stores, free, state⟩ := onSystem_state lawful id (fun t => t) changes
  have unchanged : (ws.stores[id.index]?.map Prod.fst).elim ws.tables
      (fun table => ws.tables.modify table.index fun t => t) = ws.tables := by
    cases ws.stores[id.index]? with
    | none => rfl
    | some entry => exact modify_same _ _
  rw [tieBreakOf, state, unchanged]
  exact ⟨⟨lawful.tables, free, lawful.families⟩, same⟩

theorem family_preserves (tables : Array NameTable) (id : FamilyId) :
    (family id).Preserves (Holding tables) := by
  intro ws holding
  rwa [family_state]

theorem modifyRegistry_preserves (tables : Array NameTable)
    (change : List (String × FamilyId) → List (String × FamilyId)) :
    Step.Preserves (Holding tables)
      (modify fun ws => { ws with registry := change ws.registry }) := by
  rintro ws ⟨lawful, same⟩
  exact ⟨lawful.withRegistry _, same⟩

theorem newSystemBeside_preserves (tables : Array NameTable) (id : SystemId)
    (tieBreak : Option TieBreak) (timeout : Timeout) :
    (newSystemBeside id tieBreak timeout).Preserves (Holding tables) :=
  .bind (tieBreakOf_preserves tables id) fun _ => .bind (.look _ _) fun _ =>
    newSystemOn_preserves tables _ _ timeout

theorem enroll_preserves (tables : Array NameTable) (id : FamilyId) :
    (enroll id).Preserves (Holding tables) := by
  refine .bind (family_preserves tables id) fun f => .bind (.look _ _) fun found => ?_
  cases found with
  | none => exact modifyRegistry_preserves tables (· ++ [(f.name, id)])
  | some _ => exact fun _ holding => holding

theorem withdraw_preserves (tables : Array NameTable) (name : String) :
    (withdraw name).Preserves (Holding tables) :=
  .bind (.look _ _) fun _ => .bind (modifyRegistry_preserves tables _) fun _ => .pure _ _

/-- A new family comes with a new table. -/
theorem Lawful.grows_newFamily {ws : Workspace} (lawful : ws.Lawful) (name : String) :
    Grows ws ((newFamily name).runFrom ws).2 none := by
  cases named : Family.ofName name with
  | error e =>
    have refused : (newFamily name).runFrom ws = (.error e, ws) := by
      rw [newFamily, Step.runFrom_bind_error]
      rw [Step.runFrom_look, named]
    rw [refused]
    exact ⟨lawful, by simp, .inl rfl⟩
  | ok f =>
    have noNames : f.names = [] := by
      rw [Family.ofName] at named
      split at named
      · cases named
        rfl
      · cases named
    have made : ((newFamily name).runFrom ws).2 =
        { ws with
          tables := ws.tables.push (NameTable.new Configuration.standard.timeout)
          families := ws.families.push (⟨ws.tables.size⟩, f) } := by
      rw [newFamily, Step.runFrom_bind_ok (by rw [Step.runFrom_look, named])]
      rfl
    rw [made]
    refine ⟨⟨lawful.withTable _, lawful.stores, ?_⟩, by simp, .inr ⟨rfl, _, rfl⟩⟩
    intro entry member
    rcases Array.mem_push.mp member with old | rfl
    · exact lawful.families entry old
    · simp [noNames]

/-- Every call makes one more table, or brings names into one of those there are, and
leads from lawful workspaces to lawful ones. -/
theorem Lawful.grows_call {ws : Workspace} (lawful : ws.Lawful) (call : Call) :
    Grows ws (call.after ws) (call.enters ws) := by
  cases call with
  | newTable timeout =>
    exact ⟨⟨lawful.withTable timeout, lawful.stores, lawful.families⟩, by simp [Call.enters],
      .inr ⟨rfl, timeout, rfl⟩⟩
  | newSystem table tieBreak timeout =>
    rw [Call.after, Call.perform, Step.state_of_discard]
    exact lawful.grows_of_preserves (newSystemOn_preserves _ table tieBreak timeout)
  | newSystemBeside system tieBreak timeout =>
    rw [Call.after, Call.perform, Step.state_of_discard]
    exact lawful.grows_of_preserves (newSystemBeside_preserves _ system tieBreak timeout)
  | newFamily name =>
    rw [Call.after, Call.perform, Step.state_of_discard]
    exact lawful.grows_newFamily name
  | describe family name use words => exact lawful.grows_describe family name use words
  | enroll family => exact lawful.grows_of_preserves (enroll_preserves _ family)
  | withdraw name =>
    rw [Call.after, Call.perform, Step.state_of_discard]
    exact lawful.grows_of_preserves (withdraw_preserves _ name)
  | read table entry =>
    rw [Call.after, Call.perform, onTable_state fun t member =>
      Entry.perform_runFrom (lawful.tables t member).1 entry]
    refine lawful.grows ?_ rfl lawful.stores lawful.families
    simpa [Call.enters] using Entry.valid_of_mem_names entry
  | addText system text => exact lawful.grows_addText system text
  | systemOfFamily family tieBreak =>
    rw [Call.after, Call.perform, Step.state_of_discard]
    exact lawful.grows_systemOfFamily family tieBreak
  | systemOfRegistered name tieBreak =>
    rw [Call.after, Call.perform, Step.state_of_discard, systemOfRegistered, Call.enters]
    cases found : Datum.getField? name ws.registry with
    | none =>
      have asked : (registered? name).runFrom ws = (.ok none, ws) := by
        simp [registered?, found]
      rw [Step.runFrom_bind_ok asked]
      exact ⟨lawful, by simp, .inl rfl⟩
    | some family =>
      have asked : (registered? name).runFrom ws = (.ok (some family), ws) := by
        simp [registered?, found]
      rw [Step.runFrom_bind_ok asked]
      exact lawful.grows_systemOfFamily family tieBreak

end Workspace

end GrowthGrammar
