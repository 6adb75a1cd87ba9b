import GrowthGrammar.Family
import GrowthGrammar.System

/-!
# Workspaces

Several systems may share one table, and a family shares its table with every
system made from it.  A workspace keeps tables, rule stores and families side by
side: a store and a family name the table they use by its number, so what one of
them adds to the table is seen by all.

Families can be registered under a name and found again by it.  `familyOr` finds
a registered family, and builds and registers it the first time.
-/

namespace GrowthGrammar

/-- The number of a table in a workspace. -/
structure TableId where
  /-- The place of the table. -/
  index : Nat
  deriving DecidableEq, Repr

/-- The number of a system in a workspace. -/
structure SystemId where
  /-- The place of the system. -/
  index : Nat
  deriving DecidableEq, Repr

/-- The number of a family in a workspace. -/
structure FamilyId where
  /-- The place of the family. -/
  index : Nat
  deriving DecidableEq, Repr

/-- Tables, and the stores and families that use them. -/
structure Workspace where
  /-- The tables. -/
  tables : Array NameTable
  /-- The stores and the tables they use. -/
  stores : Array (TableId × RuleStore)
  /-- The families and the tables they use. -/
  families : Array (TableId × Family)
  /-- The registered names. -/
  registry : List (String × FamilyId)

namespace Workspace

/-- Nothing at all. -/
def empty : Workspace := ⟨#[], #[], #[], []⟩

/-! ## Tables and systems -/

/-- A computation on a table. -/
def onTable {α : Type} (id : TableId) (step : Step NameTable α) : Step Workspace α :=
  Step.ofRun fun ws =>
    match ws.tables[id.index]? with
    | none => (.error .missingKey, ws)
    | some table =>
      let (outcome, table) := step.runFrom table
      (outcome, { ws with tables := ws.tables.setIfInBounds id.index table })

/-- A computation on a system. -/
def onSystem {α : Type} (id : SystemId) (step : Step System α) : Step Workspace α :=
  Step.ofRun fun ws =>
    match ws.stores[id.index]? with
    | none => (.error .missingKey, ws)
    | some (tableId, store) =>
      match ws.tables[tableId.index]? with
      | none => (.error .missingKey, ws)
      | some table =>
        let (outcome, system) := step.runFrom ⟨table, store⟩
        (outcome,
          { ws with
            tables := ws.tables.setIfInBounds tableId.index system.table
            stores := ws.stores.setIfInBounds id.index (tableId, system.store) })

/-- The table that a system uses. -/
def tableOf (id : SystemId) : Step Workspace TableId :=
  Step.look fun ws =>
    match ws.stores[id.index]? with
    | none => .error .missingKey
    | some (tableId, _) => .ok tableId

/-- A new table. -/
def newTable (timeout : Timeout) : Step Workspace TableId :=
  Step.ofRun fun ws =>
    (.ok ⟨ws.tables.size⟩, { ws with tables := ws.tables.push (NameTable.new timeout) })

/-- A new system on a table. -/
def newSystemOn (table : TableId) (tieBreak : TieBreak) (timeout : Timeout) :
    Step Workspace SystemId :=
  Step.ofRun fun ws =>
    (.ok ⟨ws.stores.size⟩,
      { ws with stores := ws.stores.push (table, RuleStore.new tieBreak timeout) })

/-- A new system on a table of its own. -/
def newSystem (tieBreak : TieBreak) (timeout : Timeout) : Step Workspace SystemId := do
  newSystemOn (← newTable timeout) tieBreak timeout

/-- The tie-break of a system. -/
def tieBreakOf (id : SystemId) : Step Workspace TieBreak :=
  onSystem id do return (← get).store.tieBreak

/-- A new system on the table of another, with the other's tie-break unless one
is given. -/
def newSystemBeside (id : SystemId) (tieBreak : Option TieBreak) (timeout : Timeout) :
    Step Workspace SystemId := do
  let inherited ← tieBreakOf id
  newSystemOn (← tableOf id) (tieBreak.getD inherited) timeout

/-! ## Families -/

/-- A computation on a family and its table. -/
def onFamily {α : Type} (id : FamilyId) (step : Step (Family × NameTable) α) :
    Step Workspace α :=
  Step.ofRun fun ws =>
    match ws.families[id.index]? with
    | none => (.error .missingKey, ws)
    | some (tableId, family) =>
      match ws.tables[tableId.index]? with
      | none => (.error .missingKey, ws)
      | some table =>
        let (outcome, family, table) := step.runFrom (family, table)
        (outcome,
          { ws with
            tables := ws.tables.setIfInBounds tableId.index table
            families := ws.families.setIfInBounds id.index (tableId, family) })

/-- A family as it is now. -/
def family (id : FamilyId) : Step Workspace Family :=
  onFamily id do return (← get).1

/-- The table that a family uses. -/
def tableOfFamily (id : FamilyId) : Step Workspace TableId :=
  Step.look fun ws =>
    match ws.families[id.index]? with
    | none => .error .missingKey
    | some (tableId, _) => .ok tableId

/-- A new family with a table of its own. -/
def newFamily (name : String) : Step Workspace FamilyId := do
  let family ← Step.look fun _ => Family.ofName name
  let table ← newTable Configuration.standard.timeout
  Step.ofRun fun ws =>
    (.ok ⟨ws.families.size⟩, { ws with families := ws.families.push (table, family) })

/-- A new family with the turtle vocabulary. -/
def turtleFamily : Step Workspace FamilyId := do
  let id ← newFamily Family.turtleName
  onFamily id (Family.describeAll Family.turtle)
  return id

/-- Enter some names in the table of a system. -/
def enterNames (id : SystemId) (names : List String) : Step Workspace Unit :=
  onSystem id do
    let _ ← System.onTable (NameTable.enterAll names)

/-- A new system on the table of a family, with every described name entered. -/
def systemOfFamily (id : FamilyId) (tieBreak : TieBreak) : Step Workspace SystemId := do
  let table ← tableOfFamily id
  let system ← newSystemOn table tieBreak Configuration.standard.timeout
  enterNames system ((← family id).descriptions.map Description.name)
  return system

/-! ## The registry -/

/-- The family registered under a name. -/
def registered? (name : String) : Step Workspace (Option FamilyId) :=
  Step.look fun ws => .ok (Datum.getField? name ws.registry)

/-- Register a family under its own name, which must not be taken. -/
def enroll (id : FamilyId) : Step Workspace Unit := do
  let name := (← family id).name
  match ← registered? name with
  | some _ => throw (.settings (.registeredTwice name))
  | none => modify fun ws => { ws with registry := ws.registry ++ [(name, id)] }

/-- Forget a registered name. -/
def withdraw (name : String) : Step Workspace (Option FamilyId) := do
  let found ← registered? name
  modify fun ws => { ws with registry := ws.registry.filter fun entry => entry.1 != name }
  return found

/-- The family registered under a name, built and registered if there is none. -/
def familyOr (name : String) (build : Step Workspace FamilyId) : Step Workspace FamilyId := do
  match ← registered? name with
  | some id => return id
  | none =>
    let id ← build
    modify fun ws => { ws with registry := ws.registry ++ [(name, id)] }
    return id

/-- A new system on the table of a registered family. -/
def systemOfRegistered (name : String) (tieBreak : TieBreak) : Step Workspace SystemId := do
  match ← registered? name with
  | none => throw (.settings (.notRegistered name))
  | some id => systemOfFamily id tieBreak

end Workspace

end GrowthGrammar
