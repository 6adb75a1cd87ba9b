import GrowthGrammar.Fingerprint
import GrowthGrammar.Plant

/-!
# Sessions

A session works on one workspace and keeps what it makes under names.  Systems,
tables and rules have names of their own.  A name of rules stands for a store that
goes on changing or for the frozen rules that were taken of one.  A system is kept
three times: itself, its table under the tables and its store under the rules, and
each of these may be replaced later without the others.

What is kept as a word is a draft, since it may be made of anything.  Only where
its symbols are asked for does it have to be a word.

A lock is a free one, that of a table or that of a store.  `Session.holding` does
something while a lock is held and gives it back whatever the outcome was; an
error of giving it back comes before any other.
-/

namespace GrowthGrammar

/-- What a name of rules stands for. -/
inductive RulesRef
  /-- A store. -/
  | live (id : SystemId)
  /-- What a store held at one moment. -/
  | taken (frozen : FrozenRules)

/-- A rule for a store: as a text or as one that is kept. -/
inductive GivenRule
  /-- The rule that a text writes. -/
  | written (text : String)
  /-- The rule of a name. -/
  | kept (name : String)

/-- What a name of a lock stands for. -/
inductive LockRef
  /-- A lock that guards nothing. -/
  | free (name : String)
  /-- The lock of a table. -/
  | table (name : String)
  /-- The lock of a store. -/
  | store (name : String)
  deriving DecidableEq, Repr

/-- A workspace and the names of what is in it. -/
structure Session where
  /-- The tables, systems and families. -/
  workspace : Workspace
  /-- The names of systems. -/
  systems : List (String × SystemId)
  /-- The names of tables. -/
  tables : List (String × TableId)
  /-- The names of stores and indexes. -/
  stores : List (String × RulesRef)
  /-- The rules that are kept. -/
  keptRules : List (String × Rule)
  /-- The words, which may hold anything. -/
  drafts : List (String × Draft)
  /-- The names of families. -/
  families : List (String × FamilyId)
  /-- The locks that guard nothing. -/
  locks : List (String × Lock)

namespace Session

/-- The start of a session. -/
def empty : Session := ⟨.empty, [], [], [], [], [], [], []⟩

/-- A computation on the workspace. -/
def onWorkspace {α : Type} (step : Step Workspace α) : Step Session α :=
  Step.on Session.workspace (fun ws s => { s with workspace := ws }) step

/-- An outcome that does not depend on the session. -/
def settle {α : Type} (outcome : Except Error α) : Step Session α :=
  Step.look fun _ => outcome

/-! ## Names -/

/-- What is kept under a name. -/
def found {α : Type} (name : String) (all : List (String × α)) : Step Session α :=
  match Datum.getField? name all with
  | some x => return x
  | none => throw .missingKey

/-- The system of a name. -/
def system (name : String) : Step Session SystemId := do found name (← get).systems

/-- The table of a name. -/
def table (name : String) : Step Session TableId := do found name (← get).tables

/-- The store or the frozen rules of a name. -/
def rulesRef (name : String) : Step Session RulesRef := do found name (← get).stores

/-- The rule of a name. -/
def rule (name : String) : Step Session Rule := do found name (← get).keptRules

/-- The draft of a name. -/
def draft (name : String) : Step Session Draft := do found name (← get).drafts

/-- The family of a name. -/
def family (name : String) : Step Session FamilyId := do found name (← get).families

/-- The system whose store has a name.  Frozen rules are refused. -/
def store (refusal : Error) (name : String) : Step Session SystemId := do
  match ← rulesRef name with
  | .live id => return id
  | .taken _ => throw refusal

/-- Keep a table under a name. -/
def keepTable (name : String) (id : TableId) : Step Session Unit :=
  modify fun s => { s with tables := Datum.setField name id s.tables }

/-- Keep a store or frozen rules under a name. -/
def keepRules (name : String) (ref : RulesRef) : Step Session Unit :=
  modify fun s => { s with stores := Datum.setField name ref s.stores }

/-- Keep a rule under a name. -/
def keepRule (name : String) (r : Rule) : Step Session Unit :=
  modify fun s => { s with keptRules := Datum.setField name r s.keptRules }

/-- Keep a draft under a name. -/
def keepDraft (name : String) (d : Draft) : Step Session Unit :=
  modify fun s => { s with drafts := Datum.setField name d s.drafts }

/-- Keep a family under a name. -/
def keepFamily (name : String) (id : FamilyId) : Step Session Unit :=
  modify fun s => { s with families := Datum.setField name id s.families }

/-- Keep a lock that guards nothing under a name. -/
def keepLock (name : String) (lock : Lock) : Step Session Unit :=
  modify fun s => { s with locks := Datum.setField name lock s.locks }

/-- Keep a system, its table and its store under a name. -/
def keepSystem (name : String) (id : SystemId) : Step Session Unit := do
  modify fun s => { s with systems := Datum.setField name id s.systems }
  keepTable name (← onWorkspace (Workspace.tableOf id))
  keepRules name (.live id)

/-- The names of a family, sorted by their code points. -/
def namesOfFamily (id : FamilyId) : Step Session (List String) := do
  let names := ((← get).families.filter fun f => f.2 == id).map Prod.fst
  return names.mergeSort fun a b =>
    Text.inOrder (Text.codePoints a.toList) (Text.codePoints b.toList)

/-! ## Computations on what has a name -/

/-- A computation on the table of a name. -/
def onTable {α : Type} (name : String) (step : Step NameTable α) : Step Session α := do
  let id ← table name
  onWorkspace (Workspace.onTable id step)

/-- A computation on the system of a name. -/
def onSystem {α : Type} (name : String) (step : Step System α) : Step Session α := do
  let id ← system name
  onWorkspace (Workspace.onSystem id step)

/-- A new system under a name. -/
def newSystem (name : String) (tieBreak : TieBreak) (timeout : Timeout) : Step Session Unit := do
  keepSystem name (← onWorkspace (Workspace.newSystem tieBreak timeout))

/-- A computation on the table of the system of a name. -/
def onTableOf {α : Type} (name : String) (step : Step NameTable α) : Step Session α :=
  onSystem name (System.onTable step)

/-- A computation on the store of a name.  Frozen rules are refused. -/
def onStore {α : Type} (refusal : Error) (name : String) (step : Step RuleStore α) :
    Step Session α := do
  let id ← store refusal name
  onWorkspace (Workspace.onSystem id (System.onStore step))

/-- The rule to register that is given. -/
def sourceOf : GivenRule → Step Session System.RuleSource
  | .written text => return .written text
  | .kept name => return .built (← rule name)

/-- Register a rule in a store. -/
def enterRule (id : SystemId) (given : GivenRule) : Step Session Rule := do
  let source ← sourceOf given
  onWorkspace (Workspace.onSystem id (System.addFrom source))

/-- Register a rule in the system of a name. -/
def addRule (name : String) (source : GivenRule) : Step Session Rule := do
  enterRule (← system name) source

/-- Register a rule in the store of a name. -/
def storeRule (name : String) (source : GivenRule) : Step Session Rule := do
  enterRule (← store .notRecord name) source

/-- Register some rules in the system of a name, up to the first that is refused. -/
def addRules (name : String) (rules : List GivenRule) : Step Session (List Rule) := do
  let sources ← rules.mapM sourceOf
  onSystem name (System.addAll sources)

/-- The rules of a system, predecessor by predecessor. -/
def rulesOfSystem (name : String) : Step Session (List Rule) :=
  onSystem name (System.onStore RuleStore.toList)

/-- The rules of a store, predecessor by predecessor. -/
def rulesOfStore (name : String) : Step Session (List Rule) :=
  onStore .wrongType name RuleStore.toList

/-- The number of names and the number of rules of a system. -/
def counts (name : String) : Step Session (Nat × Nat) := onSystem name System.counts

/-- A system as a message shows it. -/
def shownSystem (name : String) : Step Session String := onSystem name System.shown

/-- The systems of two names share their table. -/
def sharesTable (name other : String) : Step Session Bool := do
  let first ← onWorkspace (Workspace.tableOf (← system name))
  let second ← onWorkspace (Workspace.tableOf (← system other))
  return first == second

/-- The word after the passes that the settings ask for. -/
def derive (name : String) (settings : Schedule) (fresh : Random.Generator) (d : Draft) :
    Step Session Word :=
  onSystem name (System.onDraft d (System.derive settings fresh))

/-- One pass over a word of a system with a new generator. -/
def pass (name : String) (seed : Nat) (d : Draft) : Step Session Word :=
  onSystem name (System.onDraft d fun w => Step.ofRun fun system =>
    let (outcome, system, _) :=
      (System.pass w).runFrom (system, Random.Generator.ofSeed seed)
    (outcome, system))

/-! ## Questions to rules -/

/-- A question to the store or the frozen rules of a name. -/
def ask {α : Type} (name : String) (live : Step RuleStore α) (taken : FrozenRules → α) :
    Step Session α := do
  match ← rulesRef name with
  | .live id => onWorkspace (Workspace.onSystem id (System.onStore live))
  | .taken frozen => return taken frozen

/-- The rules of a name, as they answer a derivation now. -/
def rulebook (name : String) : Step Session Rulebook :=
  ask name (do return (← get).rulebook) FrozenRules.rulebook

/-- The number of rules of a name. -/
def ruleCount (name : String) : Step Session Nat :=
  ask name RuleStore.size FrozenRules.size

/-- A question about a part to the rules of a name.  There is nothing to find about
a datum, but it has to be a key. -/
def askAbout {α : Type} (name : String) (part : Part) (nothing : α)
    (live : Symbol → Step RuleStore α) (taken : FrozenRules → Symbol → α) : Step Session α :=
  match part with
  | .symbol s => ask name (live s) (taken · s)
  | .datum d => do
    let _ ← ruleCount name
    if d.isKey then return nothing else throw .wrongType

/-- The window of a predecessor. -/
def window (name : String) (part : Part) : Step Session (Nat × Nat) :=
  askAbout name part (0, 0) RuleStore.window FrozenRules.window

/-- The rules of a predecessor. -/
def rulesOf (name : String) (part : Part) : Step Session (List Rule) :=
  askAbout name part [] RuleStore.rulesOf FrozenRules.rulesOf

/-- The rules that apply to a predecessor between two drafts. -/
def candidates (name : String) (part : Part) (before after : Draft) :
    Step Session (List Rule) :=
  let (left, right) := (before.trailing, after.leading)
  askAbout name part [] (RuleStore.candidates · left right) (·.candidates · left right)

/-- Take what a store holds now, and keep it under a name. -/
def freeze (name here : String) : Step Session FrozenRules := do
  let frozen ← onStore .notRecord name RuleStore.freeze
  keepRules here (.taken frozen)
  return frozen

/-- One pass over a draft with the rules of a name and a new generator. -/
def passOnce (name : String) (seed : Nat) (d : Draft) : Step Session Draft := do
  let rulebook ← rulebook name
  settle ((Derivation.passDraft rulebook d).runFrom (Random.Generator.ofSeed seed)).1

/-! ## Plants and families -/

/-- Read a plant, and keep its system and its initial word under one name. -/
def readPlant [Ruler] (name : String) (text : List Char) : Step Session Plant := do
  let p ← onWorkspace (Plant.read text)
  keepSystem name p.system
  keepDraft name (.ofWord p.initial)
  return p

/-- The family registered under a name, built if there is none, and whether it
was built.  It is kept under another name if one is given. -/
def familyOr (name : String) (here : Option String) (build : Step Workspace FamilyId) :
    Step Session (FamilyId × Bool) := do
  let before ← onWorkspace (Workspace.registered? name)
  let id ← onWorkspace (Workspace.familyOr name build)
  if let some here := here then keepFamily here id
  return (id, before.isNone)

/-! ## Locks -/

/-- Do something to a lock. -/
def onLock (ref : LockRef) (change : Lock → Except LockFault Lock) : Step Session Unit :=
  match ref with
  | .table name => onTable name (Guarded.lockStep change)
  | .store name => onStore .notRecord name (RuleStore.onRules (Guarded.lockStep change))
  | .free name => do
    match change (← found name (← get).locks) with
    | .error fault => throw (.lock fault)
    | .ok lock => keepLock name lock

/-- A lock as it is now. -/
def lock (ref : LockRef) : Step Session Lock :=
  match ref with
  | .table name => onTable name do return (← get).lock
  | .store name => onStore .notRecord name do return (← get).guarded.lock
  | .free name => do found name (← get).locks

/-- Do something between taking a lock and giving it back. -/
def holding {α : Type} (ref : LockRef) (acquire release : Lock → Except LockFault Lock)
    (step : Step Session α) : Step Session α := do
  onLock ref acquire
  Step.ofRun fun s =>
    let (outcome, s) := step.runFrom s
    match (onLock ref release).runFrom s with
    | (.error e, s) => (.error e, s)
    | (.ok _, s) => (outcome, s)

end Session

end GrowthGrammar
