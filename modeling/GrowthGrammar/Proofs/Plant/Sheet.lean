import GrowthGrammar.Proofs.Plant.Stock

/-!
# Plants by what their text says

Reading a plant takes a workspace from which the family is fetched, a table that all plants before
have filled, and a new system on it.  What comes of a text depends on none of these: `Plant.sheet`
reads the same text without any workspace, as names and settings.

Main statement: from a workspace that serves plants (`Serves`), a text gives the error that its
sheet gives, or a plant that follows its sheet (`Serves.read`).  Whatever comes of it, the
workspace serves plants afterwards.
-/

namespace GrowthGrammar

/-- What a plant is, as names. -/
structure Sheet where
  /-- The rules, in their order. -/
  rules : List WrittenRule
  /-- The initial word. -/
  initial : List String
  /-- How to derive it. -/
  run : Schedule
  /-- How to draw it. -/
  turtle : TurtleSettings

namespace Plant

/-! ## Reading without a workspace -/

/-- The draft after a line, and the rule on it. -/
def sheetLine (d : Draft) : PlantLine → Except Error (Draft × List WrittenRule)
  | .blank => .ok (d, [])
  | .initial word =>
    match d.initial with
    | some _ => .error (.parse (.plant .secondInitial))
    | none => .ok ({ d with initial := some word }, [])
  | .setting key value =>
    match PlantSetting.read key value with
    | .error fault => .error (.parse (.plant fault))
    | .ok setting => .ok (d.set setting, [])
  | .rule text =>
    (WrittenRule.admitted text).map fun written => ({ d with rules := d.rules + 1 }, [written])

/-- The draft after some lines, the first of which has the given number, and the rules on them. -/
def sheetLines (number : Nat) (d : Draft) :
    List (List Char) → Except Error (Draft × List WrittenRule)
  | [] => .ok (d, [])
  | line :: rest => do
    let (d, here) ← (sheetLine d (PlantLine.ofText line)).mapError (atLine number)
    let (d, later) ← sheetLines (number + 1) d rest
    return (d, here ++ later)

/-- The sheet of a draft and some rules. -/
def sheetOf [Ruler] (d : Draft) (rules : List WrittenRule) : Except Error Sheet :=
  match d.initial with
  | none => .error (.parse (.plant (if d.rules = 0 then .noRules else .noInitial)))
  | some word =>
    if d.rules = 0 then .error (.parse (.plant .noRules))
    else if word.isEmpty then .error (.parse (.plant .noInitial))
    else do
      let initial ← namesWritten word
      let run ← d.schedule
      let turtle ← d.turtleSettings
      return { rules, initial, run, turtle }

/-- The sheet that a text writes. -/
def sheet [Ruler] (text : List Char) : Except Error Sheet :=
  if Text.isNonBlank text then do
    let (d, rules) ← sheetLines 1 .start (Text.lines text)
    sheetOf d rules
  else .error (.parse (.plant .noText))

/-! ## Reading in a workspace -/

variable {ws after : Workspace} {family : FamilyId} {table : TableId} {id : SystemId}
  {system : System} {rules : List Rule}

/-- A line read in a workspace gives the draft that it gives without one, and registers the rule on
it. -/
theorem Planted.readLine (planted : Planted ws family table id system rules) (d : Draft)
    (line : PlantLine) {outcome : Except Error Draft}
    (run : (readLine id d line).runFrom ws = (outcome, after)) :
    ∃ system' added, Planted after family table id system' (rules ++ added) ∧
      outcome.map (·, added.map Rule.written) = sheetLine d line := by
  have unchanged : Planted ws family table id system (rules ++ []) := by rwa [List.append_nil]
  cases line with
  | blank =>
    cases run
    exact ⟨system, [], unchanged, rfl⟩
  | initial word =>
    rw [Plant.readLine] at run
    rw [sheetLine]
    cases given : d.initial <;> rw [given] at run <;> cases run <;>
      exact ⟨system, [], unchanged, rfl⟩
  | setting key value =>
    rw [Plant.readLine] at run
    rw [sheetLine]
    cases found : PlantSetting.read key value <;> rw [found] at run <;> cases run <;>
      exact ⟨system, [], unchanged, rfl⟩
  | rule text =>
    rcases added : (System.addText text).runFrom system with ⟨found, now⟩
    obtain ⟨same, ready⟩ := planted.ready.addText added
    have onSystem := planted.hosts.onSystem_runFrom (System.addText text)
    rw [added] at onSystem
    rw [Plant.readLine, Step.runFrom_bind, onSystem] at run
    rw [sheetLine, ← same]
    refine ⟨now, found.toOption.toList, ?_, ?_⟩
    · cases found <;> cases run <;> exact planted.withSystem ready
    · cases found <;> cases run <;> rfl

theorem Planted.readLines (planted : Planted ws family table id system rules) (number : Nat)
    (d : Draft) (lines : List (List Char)) {outcome : Except Error Draft}
    (run : (readLines id number d lines).runFrom ws = (outcome, after)) :
    ∃ system' added, Planted after family table id system' (rules ++ added) ∧
      outcome.map (·, added.map Rule.written) = sheetLines number d lines := by
  -- The rules of the lines that are read are those that the system is ready for.
  induction lines generalizing ws system rules number d with
  | nil =>
    cases run
    exact ⟨system, [], by rwa [List.append_nil], rfl⟩
  | cons line rest ih =>
    rcases first : (Plant.readLine id d (PlantLine.ofText line)).runFrom ws with ⟨found, between⟩
    obtain ⟨next, here, plantedNext, same⟩ := planted.readLine d _ first
    have placed : (Step.mapError (atLine number)
        (Plant.readLine id d (PlantLine.ofText line))).runFrom ws =
          (found.mapError (atLine number), between) := by
      rw [Step.runFrom_mapError, first]
    rw [sheetLines, ← same]
    rw [Plant.readLines] at run
    cases found with
    | error e =>
      rw [Step.runFrom_bind_error placed] at run
      cases run
      exact ⟨next, here, plantedNext, rfl⟩
    | ok d' =>
      rw [Step.runFrom_bind_ok placed] at run
      obtain ⟨last, later, plantedLast, sameRest⟩ := ih plantedNext (number + 1) d' run
      refine ⟨last, here ++ later, by rwa [← List.append_assoc], ?_⟩
      show _ = (do
        let (d, later) ← sheetLines (number + 1) d' rest
        return (d, here.map Rule.written ++ later))
      rw [← sameRest]
      cases outcome with
      | error e => rfl
      | ok _ => simp [Except.map, bind, Except.bind, pure, Except.pure]

/-! ## Plants that follow a sheet -/

/-- The plant has, in its workspace, what the sheet says. -/
structure Follows (p : Plant) (ws : Workspace) (s : Sheet) : Prop where
  hosted : ∃ table system rules, ws.Hosts p.system table system ∧
    system.Ready Configuration.standard.tieBreak rules ∧ rules.map Rule.written = s.rules ∧
    system.Knows p.initial
  initial : p.initial.names = s.initial
  run : p.run = s.run
  turtle : p.turtle = s.turtle

theorem settled_runFrom [Ruler] (d : Draft) (id : SystemId) (initial : Word) (ws : Workspace) :
    (do
      let run ← Step.look fun _ => d.schedule
      let turtle ← Step.look fun _ => d.turtleSettings
      return ⟨id, initial, run, turtle⟩ : Step Workspace Plant).runFrom ws =
    ((do
      let run ← d.schedule
      let turtle ← d.turtleSettings
      return ⟨id, initial, run, turtle⟩), ws) := by
  rw [Step.runFrom_bind, Step.runFrom_look]
  cases d.schedule with
  | error e => rfl
  | ok run =>
    simp only [Step.runFrom_bind, Step.runFrom_look]
    cases d.turtleSettings <;> rfl

/-- With a word that its system knows, a draft whose settings are accepted makes a plant that
follows its sheet. -/
theorem Planted.settled [Ruler] (planted : Planted ws family table id system rules) (d : Draft)
    {initial : Word} (known : system.Knows initial) :
    Corresponds Eq (fun p s => p.Follows ws s)
      (do
        let run ← d.schedule
        let turtle ← d.turtleSettings
        return ⟨id, initial, run, turtle⟩ : Except Error Plant)
      (do
        let run ← d.schedule
        let turtle ← d.turtleSettings
        return ⟨rules.map Rule.written, initial.names, run, turtle⟩) := by
  cases d.schedule with
  | error e => exact .error rfl
  | ok run =>
    cases d.turtleSettings with
    | error e => exact .error rfl
    | ok turtle =>
      exact .ok ⟨⟨table, system, rules, planted.hosts, planted.ready, rfl, known⟩, rfl, rfl, rfl⟩

/-- A draft makes a plant that follows its sheet, or gives the error that its sheet gives. -/
theorem Planted.ofDraft [Ruler] (planted : Planted ws family table id system rules) (d : Draft)
    {outcome : Except Error Plant} (run : (ofDraft id d).runFrom ws = (outcome, after)) :
    Serves after ∧ Corresponds Eq (fun p s => p.Follows after s) outcome
      (sheetOf d (rules.map Rule.written)) := by
  have serves : Serves ws := .inr ⟨family, table, planted.stocked⟩
  rw [Plant.ofDraft] at run
  rw [sheetOf]
  cases given : d.initial with
  | none =>
    rw [given] at run
    cases run
    exact ⟨serves, .error rfl⟩
  | some word =>
    rw [given] at run
    simp only at run ⊢
    by_cases noRules : d.rules = 0
    · rw [if_pos noRules] at run ⊢
      cases run
      exact ⟨serves, .error rfl⟩
    rw [if_neg noRules] at run ⊢
    by_cases noWord : word.isEmpty = true
    · rw [if_pos noWord] at run ⊢
      cases run
      exact ⟨serves, .error rfl⟩
    rw [if_neg noWord] at run ⊢
    -- The word may bring new names, so the workspace behind it is another one.
    rcases read : (System.onTable (NameTable.readWord word)).runFrom system with ⟨found, now⟩
    obtain ⟨names, ready, known⟩ := planted.ready.readWord read
    have plantedNow := planted.withSystem ready
    have servesNow : Serves (ws.withSystem id table now) := .inr ⟨family, table, plantedNow.stocked⟩
    have onSystem := planted.hosts.onSystem_runFrom (System.onTable (NameTable.readWord word))
    rw [read] at onSystem
    rw [← names]
    cases found with
    | error e =>
      rw [Step.runFrom_bind_error onSystem] at run
      cases run
      exact ⟨servesNow, .error rfl⟩
    | ok initial =>
      rw [Step.runFrom_bind_ok onSystem, settled_runFrom] at run
      cases run
      exact ⟨servesNow, plantedNow.settled d (known initial rfl)⟩

/-- From a workspace that serves plants, a text gives a plant that follows its sheet, or the error
that its sheet gives. -/
theorem Serves.read [Ruler] (serves : Serves ws) (text : List Char) {outcome : Except Error Plant}
    (run : (read text).runFrom ws = (outcome, after)) :
    Serves after ∧ Corresponds Eq (fun p s => p.Follows after s) outcome (sheet text) := by
  rw [Plant.read] at run
  rw [sheet]
  by_cases nonBlank : Text.isNonBlank text = true
  · rw [if_pos nonBlank] at run ⊢
    obtain ⟨opened, family, table, id, system, made, planted⟩ := serves.newSystem
    rw [Step.runFrom_bind_ok made] at run
    rcases lines : (Plant.readLines id 1 .start (Text.lines text)).runFrom opened with
      ⟨found, between⟩
    obtain ⟨filled, added, plantedFilled, same⟩ := planted.readLines 1 .start _ lines
    rw [← same]
    cases found with
    | error e =>
      rw [Step.runFrom_bind_error lines] at run
      cases run
      exact ⟨.inr ⟨family, table, plantedFilled.stocked⟩, .error rfl⟩
    | ok d =>
      rw [Step.runFrom_bind_ok lines] at run
      exact plantedFilled.ofDraft d run
  · rw [if_neg nonBlank] at run ⊢
    cases run
    exact ⟨serves, .error rfl⟩

/-- The workspace in which some texts have been read one after the other, whatever came of each. -/
def afterReading [Ruler] (texts : List (List Char)) : Workspace :=
  texts.foldl (fun ws text => ((read text).runFrom ws).2) .empty

/-- What has been read before does not hinder the reading of plants. -/
theorem serves_afterReading [Ruler] (texts : List (List Char)) : Serves (afterReading texts) := by
  induction texts using List.reverseRecOn with
  | nil => exact .inl rfl
  | append_singleton texts text ih =>
    rw [afterReading, List.foldl_concat, ← afterReading]
    exact (ih.read text rfl).1

end Plant

end GrowthGrammar
