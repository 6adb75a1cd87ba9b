import GrowthGrammar.Plant
import GrowthGrammar.Proofs.Workspace.Hosts

/-!
# Workspaces that serve plants

All plants of a workspace share the table of the turtle family.  The first plant builds and
registers the family; from then on the workspace is stocked (`Plant.Stocked`), whatever else has
been read into the table.

A new plant begins with a new system on that table, which is ready and has no rules
(`Plant.Serves.newSystem`).  Whatever is done with this system, the workspace stays stocked
(`Plant.Planted.withSystem`).
-/

namespace GrowthGrammar

namespace Plant

/-- The workspace has registered the turtle family, and the table of the family is there. -/
structure Stocked (ws : Workspace) (family : FamilyId) (table : TableId) : Prop where
  lawful : ws.Lawful
  registered : Datum.getField? Family.turtleName ws.registry = some family
  described : ∃ f, ws.families[family.index]? = some (table, f)
  there : ∃ t, ws.tables[table.index]? = some t

/-- The workspace has nothing in it, or has registered the turtle family. -/
def Serves (ws : Workspace) : Prop := ws = .empty ∨ ∃ family table, Stocked ws family table

/-- A new system of a stocked workspace is being filled with rules. -/
structure Planted (ws : Workspace) (family : FamilyId) (table : TableId) (id : SystemId)
    (system : System) (rules : List Rule) : Prop where
  stocked : Stocked ws family table
  hosts : ws.Hosts id table system
  ready : system.Ready Configuration.standard.tieBreak rules

variable {ws : Workspace} {family : FamilyId} {table : TableId} {id : SystemId}
  {system : System} {rules : List Rule}

/-- Whatever is done with the system, the workspace stays stocked. -/
theorem Planted.withSystem (planted : Planted ws family table id system rules) {now : System}
    {rules' : List Rule} (ready : now.Ready Configuration.standard.tieBreak rules') :
    Planted (ws.withSystem id table now) family table id now rules' := by
  obtain ⟨⟨lawful, registered, described, there⟩, hosts, -⟩ := planted
  exact ⟨⟨lawful.withSystem ready id table, registered, described, _, (hosts.withSystem now).table⟩,
    hosts.withSystem now, ready⟩

/-! ## The turtle family -/

theorem describe_runFrom {f : Family} {t : NameTable} (free : t.lock.IsFree) (d : Description)
    (valid : Name.IsValid d.name) (new : d.name ∉ f.names) :
    (Family.describe (.text d.name) d.use d.words).runFrom (f, t) =
      (.ok (), ({ f with descriptions := f.descriptions ++ [d] }, t.addAll [d.name])) := by
  have named : Name.ofDatum (.text d.name) = .ok d.name := by
    rw [Name.ofDatum, Name.check, show Name.fault? d.name = none from valid]
  have unknown : f.describes d.name = false := by
    rw [Bool.eq_false_iff]
    intro described
    obtain ⟨other, member, same⟩ := List.any_eq_true.mp described
    exact new (eq_of_beq same ▸ List.mem_map_of_mem member)
  have entered := NameTable.enter_runFrom free valid
  simp [Family.describe, named, unknown, Step.runFrom_bind, entered, Except.map]

/-- Valid names that are not described yet, and are different, are described one after the other. -/
theorem describeAll_runFrom {f : Family} {t : NameTable} (free : t.lock.IsFree)
    {ds : List Description} (valid : ∀ d ∈ ds, Name.IsValid d.name)
    (distinct : (f.names ++ ds.map Description.name).Nodup) :
    (Family.describeAll ds).runFrom (f, t) =
      (.ok (), ({ f with descriptions := f.descriptions ++ ds },
        t.addAll (ds.map Description.name))) := by
  induction ds generalizing f t with
  | nil =>
    rw [List.append_nil]
    rfl
  | cons d rest ih =>
    obtain ⟨here, later⟩ := List.forall_mem_cons.mp valid
    rw [List.map_cons, List.append_cons] at distinct
    have new : d.name ∉ f.names := by
      intro member
      rw [List.append_assoc] at distinct
      exact (List.nodup_append.mp distinct).2.2 _ member _ (by simp) rfl
    have next : ({ f with descriptions := f.descriptions ++ [d] } : Family).names =
        f.names ++ [d.name] := by
      simp [Family.names]
    rw [Family.describeAll, Step.runFrom_bind_ok (describe_runFrom free d here new)]
    rw [ih (by simpa using free) later (by rwa [next])]
    rw [← NameTable.addAll_append, List.append_assoc]
    rfl

/-- A workspace with nothing but the turtle family. -/
def firstStock : Workspace where
  tables := #[(NameTable.new Configuration.standard.timeout).addAll
    (Family.turtle.map Description.name)]
  stores := #[]
  families := #[(⟨0⟩, ⟨Family.turtleName, Family.turtle⟩)]
  registry := [(Family.turtleName, ⟨0⟩)]

theorem turtle_valid : ∀ d ∈ Family.turtle, Name.IsValid d.name := by decide

theorem firstStock_stocked : Stocked firstStock ⟨0⟩ ⟨0⟩ := by
  have valid := List.forall_mem_map.mpr turtle_valid
  refine ⟨⟨?_, ?_, ?_⟩, rfl, ⟨_, rfl⟩, ⟨_, rfl⟩⟩
  · intro t member
    obtain rfl := Array.mem_singleton.mp member
    exact ⟨Lock.free_isFree _ _, Vocabulary.empty_sound.addAll valid⟩
  · intro entry member
    exact absurd member (Array.not_mem_empty entry)
  · intro entry member
    obtain rfl := Array.mem_singleton.mp member
    exact valid

-- The table is bare before the descriptions, and the family is registered last.
theorem familyOr_empty :
    (Workspace.familyOr Family.turtleName Workspace.turtleFamily).runFrom .empty =
      (.ok ⟨0⟩, firstStock) := by
  let bare : Workspace := ⟨#[NameTable.new Configuration.standard.timeout], #[],
    #[(⟨0⟩, ⟨Family.turtleName, []⟩)], []⟩
  have made : (Workspace.newFamily Family.turtleName).runFrom .empty = (.ok ⟨0⟩, bare) := by
    rw [Workspace.newFamily, Family.ofName, if_pos (by decide)]
    rfl
  have described : (Workspace.onFamily ⟨0⟩ (Family.describeAll Family.turtle)).runFrom bare =
      (.ok (), { firstStock with registry := [] }) := by
    let table : TableId := ⟨0⟩
    have found : bare.families[(⟨0⟩ : FamilyId).index]? =
      some (table, ⟨Family.turtleName, []⟩) := rfl
    have foundTable : bare.tables[table.index]? =
      some (NameTable.new Configuration.standard.timeout) := rfl
    rw [Workspace.onFamily_runFrom found foundTable,
      describeAll_runFrom (Lock.free_isFree _ _) turtle_valid (by decide)]
    rfl
  have built : Workspace.turtleFamily.runFrom .empty =
      (.ok ⟨0⟩, { firstStock with registry := [] }) := by
    rw [Workspace.turtleFamily, Step.runFrom_bind_ok made, Step.runFrom_bind_ok described]
    rfl
  have asked : (Workspace.registered? Family.turtleName).runFrom .empty = (.ok none, .empty) := rfl
  rw [Workspace.familyOr, Step.runFrom_bind_ok asked]
  show (Workspace.turtleFamily >>= _).runFrom .empty = _
  rw [Step.runFrom_bind_ok built]
  rfl

theorem Serves.familyOr (serves : Serves ws) :
    ∃ family table now, (Workspace.familyOr Family.turtleName Workspace.turtleFamily).runFrom ws =
      (.ok family, now) ∧ Stocked now family table := by
  rcases serves with rfl | ⟨family, table, stocked⟩
  · exact ⟨⟨0⟩, ⟨0⟩, firstStock, familyOr_empty, firstStock_stocked⟩
  · have asked : (Workspace.registered? Family.turtleName).runFrom ws =
        (.ok (some family), ws) := by
      rw [Workspace.registered?, Step.runFrom_look, stocked.registered]
    refine ⟨family, table, ws, ?_, stocked⟩
    rw [Workspace.familyOr, Step.runFrom_bind_ok asked]
    rfl

/-! ## A new system -/

theorem enterNames_runFrom {names : List String} (planted : Planted ws family table id system rules)
    (valid : ∀ name ∈ names, Name.IsValid name) :
    ∃ now grown, (Workspace.enterNames id names).runFrom ws = (.ok (), now) ∧
      Planted now family table id grown rules := by
  obtain ⟨w, grown, entered, -, ready, -⟩ := planted.ready.enterAll valid
  have run : (do let _ ← System.onTable (NameTable.enterAll names) : Step System Unit).runFrom
      system = (.ok (), grown) := by
    rw [Step.runFrom_bind_ok entered]
    rfl
  refine ⟨_, grown, ?_, planted.withSystem ready⟩
  rw [Workspace.enterNames, planted.hosts.onSystem_runFrom, run]

/-- A workspace that serves plants gives a new plant a system of its own, without rules. -/
theorem Serves.newSystem (serves : Serves ws) :
    ∃ now family table id system, newSystem.runFrom ws = (.ok id, now) ∧
      Planted now family table id system [] := by
  obtain ⟨family, table, stock, fetched, stocked⟩ := serves.familyOr
  obtain ⟨f, described⟩ := stocked.described
  obtain ⟨t, there⟩ := stocked.there
  obtain ⟨free, sound⟩ := stocked.lawful.tables t (Array.mem_of_getElem? there)
  let standard := Configuration.standard
  let store := RuleStore.new standard.tieBreak standard.timeout
  let opened : Workspace := { stock with stores := stock.stores.push (table, store) }
  have placed : opened.Hosts ⟨stock.stores.size⟩ table ⟨t, store⟩ :=
    ⟨Array.getElem?_push_size, there⟩
  have planted : Planted opened family table ⟨stock.stores.size⟩ ⟨t, store⟩ [] :=
    ⟨⟨⟨stocked.lawful.tables, stocked.lawful.withStore table _ _, stocked.lawful.families⟩,
      stocked.registered, stocked.described, stocked.there⟩, placed, System.ready_new free sound _ _⟩
  have valid : ∀ name ∈ f.names, Name.IsValid name :=
    stocked.lawful.families _ (Array.mem_of_getElem? described)
  obtain ⟨now, grown, entered, plantedNow⟩ := enterNames_runFrom planted valid
  have found : (Workspace.tableOfFamily family).runFrom stock = (.ok table, stock) := by
    simp [Workspace.tableOfFamily, described]
  have made : (Workspace.newSystemOn table standard.tieBreak standard.timeout).runFrom stock =
      (.ok ⟨stock.stores.size⟩, opened) := rfl
  have seen : (Workspace.family family).runFrom opened = (.ok f, opened) :=
    Workspace.family_runFrom described there
  refine ⟨now, family, table, ⟨stock.stores.size⟩, grown, ?_, plantedNow⟩
  rw [Plant.newSystem, Step.runFrom_bind_ok fetched, Workspace.systemOfFamily,
    Step.runFrom_bind_ok found, Step.runFrom_bind_ok made, Step.runFrom_bind_ok seen]
  exact Step.runFrom_bind_ok entered _

end Plant

end GrowthGrammar
