import GrowthGrammar.Proofs.System.Ready
import GrowthGrammar.Proofs.Workspace.Call

/-!
# Systems of a workspace

A workspace keeps the store of a system and the table that it uses apart.  `Workspace.Hosts` says
that the two together are a given system, and `withSystem` puts another one in its place.  What is
done with a system of a workspace is what is done with the system alone
(`Hosts.onSystem_runFrom`), and nothing else in the workspace changes.
-/

namespace GrowthGrammar

namespace Workspace

variable {ws : Workspace} {id : SystemId} {table : TableId} {system : System}

/-- The workspace has the system at the given place, on the given table. -/
structure Hosts (ws : Workspace) (id : SystemId) (table : TableId) (system : System) : Prop where
  store : ws.stores[id.index]? = some (table, system.store)
  table : ws.tables[table.index]? = some system.table

/-- The workspace with the system in the place of the one it has there. -/
def withSystem (ws : Workspace) (id : SystemId) (table : TableId) (system : System) : Workspace :=
  { ws with
    tables := ws.tables.setIfInBounds table.index system.table
    stores := ws.stores.setIfInBounds id.index (table, system.store) }

theorem Hosts.withSystem (hosts : ws.Hosts id table system) (now : System) :
    (ws.withSystem id table now).Hosts id table now := by
  constructor
  case store =>
    have inside := (Array.getElem?_eq_some_iff.mp hosts.store).1
    simp [Workspace.withSystem, inside]
  case table =>
    have inside := (Array.getElem?_eq_some_iff.mp hosts.table).1
    simp [Workspace.withSystem, inside]

/-- What is done with a system of a workspace is done with the system alone. -/
theorem Hosts.onSystem_runFrom {α : Type} (hosts : ws.Hosts id table system) (step : Step System α) :
    (onSystem id step).runFrom ws =
      ((step.runFrom system).1, ws.withSystem id table (step.runFrom system).2) := by
  obtain ⟨store, there⟩ := hosts
  simp only [onSystem, Step.runFrom_ofRun, store, there]
  rfl

/-- A ready system may take any place. -/
theorem Lawful.withSystem (lawful : ws.Lawful) {tieBreak : TieBreak} {rules : List Rule}
    (ready : system.Ready tieBreak rules) (id : SystemId) (table : TableId) :
    (ws.withSystem id table system).Lawful := by
  constructor
  case tables =>
    intro t member
    rcases Array.mem_or_eq_of_mem_setIfInBounds member with old | rfl
    · exact lawful.tables t old
    · exact ⟨ready.tableFree, ready.closed.sound⟩
  case stores =>
    intro entry member
    rcases Array.mem_or_eq_of_mem_setIfInBounds member with old | rfl
    · exact lawful.stores entry old
    · exact ready.storeFree
  case families => exact lawful.families

end Workspace

end GrowthGrammar
