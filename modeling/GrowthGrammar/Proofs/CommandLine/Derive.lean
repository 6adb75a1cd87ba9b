import GrowthGrammar.Proofs.CommandLine.Escape
import GrowthGrammar.Proofs.FileTree
import GrowthGrammar.Proofs.Plant.Halves
import GrowthGrammar.Proofs.Turtle.Branches

/-!
# How a derivation ends

A derivation has three stages: the plant of the file grows into a word, the word is rendered in the
format of the result, and the text is saved.  What the program does on a tree of files is what
these stages do one after the other (`perform_derive`), whatever it says about them.

Main statement: a derivation to a text format either writes one file, the whole rendering of the
derived word, and ends with the exit code zero, or writes nothing and ends with the exit code one,
or lets an error escape; and an error escapes exactly if `GoesUnreported` says so or the file is
written (`Writes`) and the terminal cannot show its name (`perform_derive_outcome`).
-/

namespace GrowthGrammar

/-- A system whose locks are free is shown, and showing it changes nothing. -/
theorem System.shown_runFrom {system : System} (tableFree : system.table.lock.IsFree)
    (storeFree : system.store.guarded.lock.IsFree) :
    ∃ text, System.shown.runFrom system = (.ok text, system) := by
  have counted : counts.runFrom system =
      (.ok (system.table.value.size, system.store.guarded.value.size), system) := by
    rw [counts, Step.runFrom_bind_ok (onTable_runFrom (NameTable.size_runFrom tableFree)),
      Step.runFrom_bind_ok (onStore_runFrom (RuleStore.size_runFrom storeFree))]
    rfl
  rw [shown, Step.runFrom_bind_ok counted]
  exact ⟨_, rfl⟩

namespace Plant

/-- The plant of a file follows a sheet of whole names, in the workspace that it is read in. -/
theorem follows_of_load [Ruler] {tree : FileTree} {shown : String} {path : FilePath} {p : Plant}
    {ws : Workspace} (loaded : (load tree shown path).runFrom .empty = (.ok p, ws)) :
    ∃ s, IsWholeSheet s ∧ p.Follows ws s := by
  obtain ⟨text, between, found, loaded⟩ := Step.ok_of_runFrom_bind loaded
  cases textFound : textOf tree shown path with
  | error e => rw [Step.runFrom_look, textFound] at found; cases found
  | ok text' =>
    rw [Step.runFrom_look, textFound] at found
    cases found
    obtain ⟨-, outcomes⟩ := Serves.read (.inl rfl) text loaded
    generalize described : sheet text = outcome at outcomes
    cases outcomes with
    | ok follows =>
      have describes := (sheet_eq_ok_iff text _).mp described
      exact ⟨_, describes.isWhole (isWhole_of_textOf textFound), follows⟩

end Plant

namespace CommandLine

/-! ## Stages of a run -/

namespace Run

theorem say_runFrom (text : String) (r : Run) : (say text).runFrom r =
    (if r.around.terminal.canShow text then .ok () else .error .notEncodable, r) := by
  rw [say, Step.runFrom_bind_ok (Step.runFrom_get _)]
  cases r.around.terminal.canShow text <;> rfl

variable {α β : Type} {ws between : Workspace} {tree : FileTree} {around : Surroundings}

/-- Run without reports, the computation ends with the outcome and leaves its tree, or the tree it
has begun with. -/
def Yields (ws : Workspace) (tree : FileTree) (around : Surroundings) (step : Step Run α)
    (outcome : Except Error (α × FileTree)) : Prop :=
  ∃ after, step.runFrom ⟨ws, tree, around, false, []⟩ =
    (outcome.map Prod.fst, ⟨after, outcome.toOption.elim tree Prod.snd, around, false, []⟩)

theorem Yields.get {next : Run → Step Run α} {outcome : Except Error (α × FileTree)}
    (later : Yields ws tree around (next ⟨ws, tree, around, false, []⟩) outcome) :
    Yields ws tree around (get >>= next) outcome := by
  rwa [Yields, Step.runFrom_bind_ok (Step.runFrom_get _)]

theorem Yields.settle {stage : Except Error β} {next : β → Step Run α}
    {rest : β → Except Error (α × FileTree)}
    (later : ∀ b, stage = .ok b → Yields ws tree around (next b) (rest b)) :
    Yields ws tree around (settle stage >>= next) (stage >>= rest) := by
  cases stage with
  | error e => exact ⟨ws, rfl⟩
  | ok b => exact later b rfl

theorem Yields.note {next : Unit → Step Run α} {outcome : Except Error (α × FileTree)}
    (later : Yields ws tree around (next ()) outcome) (stage : String) :
    Yields ws tree around (note stage >>= next) outcome := by
  have silent : (Run.note stage).runFrom ⟨ws, tree, around, false, []⟩ =
      (.ok (), ⟨ws, tree, around, false, []⟩) := rfl
  obtain ⟨after, run⟩ := later
  exact ⟨after, by rw [Step.runFrom_bind_ok silent, run]⟩

theorem Yields.onWorkspace {step : Step Workspace β} {next : β → Step Run α}
    {rest : β → Except Error (α × FileTree)}
    (later : ∀ b, (step.runFrom ws).1 = .ok b →
      Yields (step.runFrom ws).2 tree around (next b) (rest b)) :
    Yields ws tree around (onWorkspace step >>= next) ((step.runFrom ws).1 >>= rest) := by
  have here : (Run.onWorkspace step).runFrom ⟨ws, tree, around, false, []⟩ =
      ((step.runFrom ws).1, ⟨(step.runFrom ws).2, tree, around, false, []⟩) := rfl
  generalize step.runFrom ws = run at here later
  obtain ⟨found, between⟩ := run
  cases found with
  | error e => exact ⟨between, Step.runFrom_bind_error here next⟩
  | ok b =>
    obtain ⟨after, last⟩ := later b rfl
    exact ⟨after, (Step.runFrom_bind_ok here next).trans last⟩

/-- A stage that is known to succeed does not show in the outcome. -/
theorem Yields.look {step : Step Workspace β} {b : β}
    (run : step.runFrom ws = (.ok b, between)) {next : β → Step Run α}
    {outcome : Except Error (α × FileTree)} (later : Yields between tree around (next b) outcome) :
    Yields ws tree around (Run.onWorkspace step >>= next) outcome := by
  have here : (Run.onWorkspace step).runFrom ⟨ws, tree, around, false, []⟩ =
      (.ok b, ⟨between, tree, around, false, []⟩) := by
    rw [Run.onWorkspace, Step.runFrom_on, run]
  obtain ⟨after, last⟩ := later
  exact ⟨after, (Step.runFrom_bind_ok here next).trans last⟩

theorem Yields.writeText (target : FilePath) (text : String) :
    Yields ws tree around (do Run.writeText target text; return target)
      (do return (target, ← tree.save .writeResult target.text target text)) := by
  refine ⟨ws, ?_⟩
  rw [Step.runFrom_bind, Run.writeText, Step.runFrom_ofRun]
  cases tree.save .writeResult target.text target text with
  | error e => rfl
  | ok after => rfl

end Run

namespace Derivation

variable (d : Derivation) (fresh : Random.Generator) (tree : FileTree)

/-! ## Stages -/

/-- The plant of the file, and the workspace that it is read in. -/
def loaded [Ruler] : Except Error Plant × Workspace :=
  (Plant.load tree d.file.text d.file).runFrom .empty

/-- The word that the plant of the file grows into. -/
def derived [Ruler] (p : Plant) : Except Error Word :=
  ((p.derive fresh).runFrom (d.loaded tree).2).1

/-- The file to write and its text, if the plant of the file has grown into the word. -/
def rendered [Ruler] (p : Plant) (w : Word) : Except Error (FilePath × String) := do
  let format ← d.formatGiven
  if format = .text then return (← d.target format, Word.text w ++ "\n")
  else
    if format.suffix?.isSome then
      let _ ← d.target format
    d.drawingText format (← p.turtle.walk w none)

/-- The file that is written and the tree with it. -/
def outcome [Ruler] : Except Error (FilePath × FileTree) := do
  let p ← (d.loaded tree).1
  let w ← d.derived fresh tree p
  let (target, text) ← d.rendered p w
  return (target, ← tree.save .writeResult target.text target text)

/-- The stages of a derivation are all that it does. -/
theorem perform_yields [Ruler] (around : Surroundings) :
    Run.Yields .empty tree around d.perform (d.outcome around.fresh tree) := by
  rw [perform, outcome]
  refine .get (.onWorkspace fun p found => ?_)
  have read : (Plant.load tree d.file.text d.file).runFrom .empty = (.ok p, (d.loaded tree).2) :=
    Prod.ext found rfl
  obtain ⟨s, -, follows⟩ := Plant.follows_of_load read
  obtain ⟨⟨table, system, rules, hosts, ready, -, -⟩, -⟩ := follows
  obtain ⟨text, shown⟩ := System.shown_runFrom ready.tableFree ready.storeFree
  have seen := hosts.onSystem_runFrom System.shown
  rw [shown] at seen
  refine .look seen (.note (.get ?_) _)
  -- showing the system has left it as it was, so the plant grows as it would have without
  have same : d.derived around.fresh tree p =
      ((p.derive around.fresh).runFrom
        ((d.loaded tree).2.withSystem p.system table system)).1 := by
    rw [derived, Plant.derive, hosts.onSystem_runFrom, (hosts.withSystem system).onSystem_runFrom]
  rw [same]
  refine .onWorkspace fun w _ => .note ?_ _
  rw [rendered, bind_assoc]
  refine .settle fun format _ => ?_
  by_cases text : format = .text
  · rw [if_pos text, if_pos text, bind_assoc]
    exact .settle fun target _ => .writeText target _
  · rw [if_neg text, if_neg text]
    by_cases suffixed : format.suffix?.isSome = true
    · rw [if_pos suffixed, if_pos suffixed, bind_assoc]
      refine .settle fun _ _ => ?_
      simp only [bind_assoc]
      exact .settle fun path _ => .note (.settle fun pair _ => .writeText pair.1 pair.2) _
    · rw [if_neg suffixed, if_neg suffixed, bind_assoc]
      exact .settle fun path _ => .note (.settle fun pair _ => .writeText pair.1 pair.2) _

end Derivation

/-- What the program does on a derivation: it reports or lets escape what goes wrong, and it can go
wrong to show the name of the file that was written. -/
theorem Request.perform_derive [Ruler] (d : Derivation) (around : Surroundings) (tree : FileTree) :
    Request.perform ⟨.derive d, false⟩ around tree =
      match d.outcome around.fresh tree with
      | .ok (target, after) =>
        if around.terminal.canShow (Derivation.answer target) then
          (.ok ⟨0, Derivation.answer target, ""⟩, after)
        else (.error .notEncodable, after)
      | .error e =>
        if isReported e.kind then
          (.ok ⟨1, "", Text.displayed (e.kind.label ++ " error:") e.message ++ "\n"⟩, tree)
        else (.error e, tree) := by
  obtain ⟨ws, run⟩ := d.perform_yields tree around
  have silent (after : FileTree) : stageLines ⟨ws, after, around, false, []⟩ = "" := rfl
  rw [Request.perform, Command.perform, Run.start, Step.runFrom_bind, Step.runFrom_map, run]
  cases d.outcome around.fresh tree with
  | error e =>
    simp only [Except.toOption, Option.elim, Except.map, endingOf, silent]
    split <;> rfl
  | ok pair =>
    simp only [Except.toOption, Option.elim, Except.map, Step.runFrom_bind, Run.say_runFrom]
    by_cases shown : around.terminal.canShow (Derivation.answer pair.1) = true
    · simp only [if_pos shown, Step.runFrom_pure, endingOf, silent, String.empty_append]
    · simp only [if_neg shown, endingOf]
      rfl

section

variable [Ruler] (d : Derivation) (around : Surroundings) (tree : FileTree)

/-- An error escapes from a derivation, or from showing the name of the file that it has written. -/
theorem Request.perform_derive_error_iff :
    (∃ e, (Request.perform ⟨.derive d, false⟩ around tree).1 = .error e) ↔
      Escapes (d.outcome around.fresh tree) ∨ ∃ target,
        d.outcome around.fresh tree =
          .ok (target, (Request.perform ⟨.derive d, false⟩ around tree).2) ∧
        around.terminal.canShow (Derivation.answer target) = false := by
  rw [Request.perform_derive]
  cases d.outcome around.fresh tree with
  | ok pair =>
    obtain ⟨target, after⟩ := pair
    cases shown : around.terminal.canShow (Derivation.answer target) <;> simp [shown]
  | error e => cases reported : isReported e.kind <;> simp [reported]

/-- An error that escapes from a derivation leaves the files as they are. -/
theorem Request.perform_derive_keeps (escapes : Escapes (d.outcome around.fresh tree)) :
    (Request.perform ⟨.derive d, false⟩ around tree).2 = tree := by
  obtain ⟨e, fails, unreported⟩ := escapes
  simp [Request.perform_derive, fails, unreported]

/-- The program ends with the code zero if a file is written, and with the code one if none is. -/
theorem Request.perform_derive_ok {ending : Ending}
    (ends : (Request.perform ⟨.derive d, false⟩ around tree).1 = .ok ending) :
    (ending.code = 0 ∧ ∃ target, d.outcome around.fresh tree =
        .ok (target, (Request.perform ⟨.derive d, false⟩ around tree).2)) ∨
      (ending.code = 1 ∧ (Request.perform ⟨.derive d, false⟩ around tree).2 = tree) := by
  rw [Request.perform_derive] at ends ⊢
  cases outcome : d.outcome around.fresh tree with
  | ok pair =>
    obtain ⟨target, after⟩ := pair
    rw [outcome] at ends
    cases shown : around.terminal.canShow (Derivation.answer target) with
    | true =>
      simp only [shown, if_true, Except.ok.injEq] at ends ⊢
      exact .inl ⟨ends ▸ rfl, target, rfl⟩
    | false => simp [shown] at ends
  | error e =>
    rw [outcome] at ends
    cases reported : isReported e.kind with
    | true =>
      simp only [reported, if_true, Except.ok.injEq] at ends
      exact .inr ⟨ends ▸ rfl, by simp [reported]⟩
    | false => simp [reported] at ends

end

/-! ## Errors of the stages -/

theorem not_escapes_walk [Ruler] (s : TurtleSettings) (w : Word) (start : Option (Pose Float)) :
    ¬ Escapes (s.walk w start) := by
  rw [TurtleSettings.walk, escapes_bind_iff, not_or]
  constructor
  · rintro ⟨e, unusable, unreported⟩
    rw [TurtleSettings.kind_of_alignPose unusable] at unreported
    cases unreported
  · rintro ⟨pose, -, e, failed, unreported⟩
    cases drawn : drawActions s.gait pose (s.actionsOf w) with
    | ok path => rw [drawn] at failed; cases failed
    | error place =>
      rw [drawn] at failed
      cases failed
      cases unreported

theorem not_escapes_read [Ruler] (text : List Char) :
    ¬ Escapes ((Plant.read text).runFrom .empty).1 := by
  rcases run : (Plant.read text).runFrom .empty with ⟨outcome, ws⟩
  obtain ⟨-, outcomes⟩ := Plant.Serves.read (.inl rfl) text run
  rintro ⟨e, rfl, unreported⟩
  generalize found : Plant.sheet text = sheet at outcomes
  cases outcomes with
  | error same =>
    obtain rfl := same
    rcases Plant.onlyRefused_sheet text e found with kind | kind
    · rw [kind] at unreported
      cases unreported
    · rw [kind] at unreported
      cases unreported

theorem escapes_textOf_iff (tree : FileTree) (shown : String) (path : FilePath) :
    Escapes (Plant.textOf tree shown path) ↔ ¬ path.IsNameable := by
  rw [Plant.textOf, escapes_bind_iff, FileTree.escapes_load_iff]
  refine or_iff_left ?_
  rintro ⟨bytes, -, e, failed, unreported⟩
  split at failed
  · cases failed
    cases unreported
  · cases failed

namespace Derivation

variable {d : Derivation} {fresh : Random.Generator} {tree : FileTree} {p : Plant} {w : Word}
  {format : Format} {output : FilePath}

theorem loaded_eq [Ruler] (d : Derivation) (tree : FileTree) : d.loaded tree =
    (Step.look (fun _ => Plant.textOf tree d.file.text d.file) >>= Plant.read).runFrom .empty := rfl

theorem escapes_loaded_iff [Ruler] (d : Derivation) (tree : FileTree) :
    Escapes (d.loaded tree).1 ↔ ¬ d.file.IsNameable := by
  rw [← escapes_textOf_iff tree d.file.text d.file, loaded_eq, Step.runFrom_bind, Step.runFrom_look]
  cases Plant.textOf tree d.file.text d.file with
  | error e => simp
  | ok text => exact iff_of_false (not_escapes_read text) (not_escapes_ok _)

theorem follows_of_loaded [Ruler] (loaded : (d.loaded tree).1 = .ok p) :
    ∃ s, Plant.IsWholeSheet s ∧ p.Follows (d.loaded tree).2 s :=
  Plant.follows_of_load (Prod.ext loaded rfl : (d.loaded tree) = (.ok p, (d.loaded tree).2))

theorem not_escapes_derived [Ruler] (fresh : Random.Generator)
    (loaded : (d.loaded tree).1 = .ok p) : ¬ Escapes (d.derived fresh tree p) := by
  obtain ⟨s, -, ⟨table, system, rules, hosts, ready, -, known⟩, -⟩ := follows_of_loaded loaded
  rw [derived, Plant.derive, hosts.onSystem_runFrom,
    System.derive_runFrom ready.tableFree ready.storeFree known]
  rintro ⟨e, failed, unreported⟩
  obtain ⟨name, rfl⟩ :=
    Derivation.passes_errorsOnly ready.closed.frozen_holds _ _ _ _ _ (Prod.ext failed rfl)
  cases unreported

/-! ## What a derivation writes -/

/-- The plant of the file grows into the word. -/
def Grows [Ruler] (d : Derivation) (fresh : Random.Generator) (tree : FileTree) (p : Plant)
    (w : Word) : Prop :=
  (d.loaded tree).1 = .ok p ∧ d.derived fresh tree p = .ok w

/-- The whole text of a format for the word of a plant. -/
inductive Renders [Ruler] (d : Derivation) (p : Plant) (w : Word) : Format → String → Prop
  | text : Renders d p w .text (w.text ++ "\n")
  | svg {path : Path Float} {text : String} : p.turtle.walk w none = .ok path →
      Drawing.svg d.canvas path = .ok text → Renders d p w .svg text
  | json {path : Path Float} {g : Graph Nat} : p.turtle.walk w none = .ok path →
      Graph.ofPath Graph.usualPrecision path = .ok g → Renders d p w .json g.toJson

/-- An error escapes the program: a path that the system cannot be asked for, a document whose file
has no name to give a suffix to, or a canvas that is unfit for the drawing. -/
inductive GoesUnreported [Ruler] (d : Derivation) (fresh : Random.Generator) (tree : FileTree)
    (output : FilePath) : Format → Prop
  /-- The plant file cannot be asked for. -/
  | file {format : Format} : ¬ d.file.IsNameable → GoesUnreported d fresh tree output format
  /-- The file of a document has no name. -/
  | noName {p : Plant} {w : Word} : d.Grows fresh tree p w → output.name = "" →
      GoesUnreported d fresh tree output .svg
  /-- The drawing cannot be placed on the canvas. -/
  | canvas {p : Plant} {w : Word} {path : Path Float} : d.Grows fresh tree p w →
      p.turtle.walk w none = .ok path → d.canvas.IsUnfitFor path →
      GoesUnreported d fresh tree output .svg
  /-- The file to write cannot be asked for. -/
  | target {format : Format} {p : Plant} {w : Word} {text : String} {target : FilePath} :
      d.Grows fresh tree p w → d.Renders p w format text → d.target format = .ok target →
      ¬ target.IsNameable → GoesUnreported d fresh tree output format

/-- A derivation writes the whole text of its format to the target, and leaves the tree `after`. -/
def Writes [Ruler] (d : Derivation) (fresh : Random.Generator) (tree : FileTree) (format : Format)
    (target : FilePath) (after : FileTree) : Prop :=
  ∃ p w text, d.Grows fresh tree p w ∧ d.Renders p w format text ∧ d.target format = .ok target ∧
    tree.save .writeResult target.text target text = .ok after

/-! ## Targets -/

theorem target_text (named : d.output = some output) : d.target .text = .ok output := by
  rw [target, outputGiven, named]
  rfl

theorem target_json (named : d.output = some output) : d.target .json = .ok output := by
  rw [target, outputGiven, named]
  rfl

/-- A document needs a name that its suffix can be given to. -/
theorem target_svg_cases (named : d.output = some output) :
    (output.name = "" ∧ d.target .svg = .error (.value (.noFileName output.text))) ∨
      (output.name ≠ "" ∧ ∃ target, d.target .svg = .ok target) := by
  have target : d.target .svg =
      if output.suffix == ".svg" then .ok output else output.withSuffix ".svg" := by
    rw [Derivation.target, outputGiven, named]
    rfl
  by_cases none : output.name = ""
  · have plain : output.suffix = "" := by
      rw [FilePath.suffix, none]
      rfl
    refine .inl ⟨none, ?_⟩
    rw [target, plain, if_neg (by decide), FilePath.withSuffix, none]
    rfl
  · refine .inr ⟨none, ?_⟩
    rw [target]
    split
    · exact ⟨output, rfl⟩
    · rw [FilePath.withSuffix, if_neg (by simpa using none)]
      exact ⟨_, rfl⟩

/-! ## Renderings -/

variable (p w) in
theorem rendered_text [Ruler] (given : d.format = some .text) (named : d.output = some output) :
    d.rendered p w = .ok (output, w.text ++ "\n") := by
  rw [rendered, formatGiven, given]
  simp only [bind, Except.bind, if_pos, target_text named]
  rfl

variable (p w) in
theorem rendered_json [Ruler] (given : d.format = some .json) (named : d.output = some output) :
    d.rendered p w = do
      let path ← p.turtle.walk w none
      return (output, (← Graph.ofPath Graph.usualPrecision path).toJson) := by
  rw [rendered, formatGiven, given]
  show (p.turtle.walk w none >>= d.drawingText .json) = _
  refine congrArg (Except.bind _) (funext fun path => ?_)
  rw [drawingText, target_json named]
  cases Graph.ofPath Graph.usualPrecision path <;> rfl

variable (p w) in
theorem rendered_svg [Ruler] (given : d.format = some .svg) :
    d.rendered p w = do
      let target ← d.target .svg
      let path ← p.turtle.walk w none
      return (target, ← Drawing.svg d.canvas path) := by
  rw [rendered, formatGiven, given]
  show (d.target .svg >>= fun _ => p.turtle.walk w none >>= d.drawingText .svg) = _
  cases found : d.target .svg with
  | error e => rfl
  | ok target =>
    have text (path : Path Float) : d.drawingText .svg path =
        (return (target, ← Drawing.svg d.canvas path)) := by
      show (do return (← d.target .svg, ← Drawing.svg d.canvas path)) = _
      rw [found]
      rfl
    show (p.turtle.walk w none >>= d.drawingText .svg) = _
    rw [funext text]
    rfl

variable (given : d.format = some format) (named : d.output = some output) (drawn : format ≠ .png)

include given named drawn

/-- What is rendered is the text of the format, for the file of the format. -/
theorem rendered_eq_ok_iff [Ruler] {target : FilePath} {text : String} :
    d.rendered p w = .ok (target, text) ↔
      d.target format = .ok target ∧ d.Renders p w format text := by
  cases format with
  | png => exact absurd rfl drawn
  | text =>
    rw [rendered_text p w given named, target_text named]
    constructor
    · rintro ⟨⟩
      exact ⟨rfl, .text⟩
    · rintro ⟨⟨⟩, ⟨⟩⟩
      rfl
  | json =>
    rw [rendered_json p w given named, target_json named]
    constructor
    · intro made
      obtain ⟨path, walked, made⟩ := ok_of_except_bind made
      obtain ⟨g, traced, same⟩ := ok_of_except_bind made
      cases same
      exact ⟨rfl, .json walked traced⟩
    · rintro ⟨same, renders⟩
      cases same
      cases renders with
      | json walked traced =>
        rw [walked]
        simp only [bind, Except.bind, traced]
        rfl
  | svg =>
    rw [rendered_svg p w given]
    constructor
    · intro made
      obtain ⟨place, found, made⟩ := ok_of_except_bind made
      obtain ⟨path, walked, made⟩ := ok_of_except_bind made
      obtain ⟨document, made, same⟩ := ok_of_except_bind made
      cases same
      exact ⟨found, .svg walked made⟩
    · rintro ⟨found, renders⟩
      cases renders with
      | svg walked made =>
        rw [found, walked]
        simp only [bind, Except.bind, made]
        rfl

/-- Only for a document there is more that can go wrong than the program reports. -/
theorem escapes_rendered_iff [Ruler] : Escapes (d.rendered p w) ↔ format = .svg ∧
    (output.name = "" ∨
    ∃ path, p.turtle.walk w none = .ok path ∧ d.canvas.IsUnfitFor path) := by
  cases format with
  | png => exact absurd rfl drawn
  | text => simp [rendered_text p w given named]
  | json =>
    refine iff_of_false ?_ (by simp)
    rw [rendered_json p w given named, escapes_bind_iff, not_or]
    refine ⟨not_escapes_walk _ _ _, ?_⟩
    rintro ⟨path, -, escapes⟩
    have ahead : 0 ≤ Graph.usualPrecision := by decide
    obtain ⟨g, traced⟩ := Graph.exists_ofPath ahead path
    rw [traced] at escapes
    exact not_escapes_ok _ escapes
  | svg =>
    rw [rendered_svg p w given, escapes_bind_iff]
    rcases target_svg_cases named with ⟨none, refused⟩ | ⟨present, target, found⟩
    · rw [refused]
      exact iff_of_true (.inl ⟨_, rfl, rfl⟩) ⟨rfl, .inl none⟩
    · have document (path : Path Float) :
          Escapes (Prod.mk target <$> Drawing.svg d.canvas path) ↔ d.canvas.IsUnfitFor path :=
        (escapes_map_iff _ _).trans (Drawing.escapes_svg_iff d.canvas path)
      simp [found, present, escapes_bind_iff, not_escapes_walk, document]

omit given named drawn in
/-- What is rendered of a derived word has no half of a character. -/
theorem Renders.isWhole [Ruler] {text : String} (renders : d.Renders p w format text)
    (grows : d.Grows fresh tree p w) : Text.IsWhole text.toList := by
  cases renders with
  | json _ _ => exact (Datum.isAscii_toJson _).isWhole
  | svg _ made =>
    have black : Text.IsAscii d.canvas.stroke.toList := by
      rw [show d.canvas.stroke = "black" from rfl]
      decide
    exact (Drawing.isAscii_svg black made).isWhole
  | text =>
    obtain ⟨s, whole, follows⟩ := follows_of_loaded grows.1
    have word := follows.isWhole_text whole (Prod.ext grows.2 rfl)
    rw [String.toList_append]
    exact word.append (.plain (by decide) .nil)

/-- An error of the stages escapes exactly in the cases of `GoesUnreported`. -/
theorem escapes_outcome_iff [Ruler] : Escapes
    (d.outcome fresh tree) ↔ d.GoesUnreported fresh tree output format := by
  have saved {p : Plant} {w : Word} {target : FilePath} {text : String}
      (grows : d.Grows fresh tree p w) (renders : d.Renders p w format text) :
      Escapes (Prod.mk target <$> tree.save .writeResult target.text target text) ↔
        ¬ target.IsNameable :=
    (escapes_map_iff _ _).trans (FileTree.escapes_save_iff (renders.isWhole grows))
  rw [outcome, escapes_bind_iff, escapes_loaded_iff]
  constructor
  · rintro (unnamed | ⟨p, loaded, escapes⟩)
    · exact .file unnamed
    obtain escapes | ⟨w, derived, escapes⟩ := (escapes_bind_iff _ _).mp escapes
    · exact absurd escapes (not_escapes_derived fresh loaded)
    obtain escapes | ⟨⟨target, text⟩, made, escapes⟩ := (escapes_bind_iff _ _).mp escapes
    · obtain ⟨rfl, noName | ⟨path, walked, unfit⟩⟩ :=
        (escapes_rendered_iff given named drawn).mp escapes
      · exact .noName ⟨loaded, derived⟩ noName
      · exact .canvas ⟨loaded, derived⟩ walked unfit
    · obtain ⟨found, renders⟩ := (rendered_eq_ok_iff given named drawn).mp made
      exact .target ⟨loaded, derived⟩ renders found ((saved ⟨loaded, derived⟩ renders).mp escapes)
  · intro unreported
    cases unreported with
    | file unnamed => exact .inl unnamed
    | noName grows noName =>
      refine .inr ⟨_, grows.1, (escapes_bind_iff _ _).mpr (.inr ⟨_, grows.2, ?_⟩)⟩
      exact (escapes_bind_iff _ _).mpr
        (.inl ((escapes_rendered_iff given named drawn).mpr ⟨rfl, .inl noName⟩))
    | canvas grows walked unfit =>
      refine .inr ⟨_, grows.1, (escapes_bind_iff _ _).mpr (.inr ⟨_, grows.2, ?_⟩)⟩
      exact (escapes_bind_iff _ _).mpr
        (.inl ((escapes_rendered_iff given named drawn).mpr ⟨rfl, .inr ⟨_, walked, unfit⟩⟩))
    | target grows renders found unnamed =>
      refine .inr ⟨_, grows.1, (escapes_bind_iff _ _).mpr (.inr ⟨_, grows.2, ?_⟩)⟩
      have made := (rendered_eq_ok_iff given named drawn).mpr ⟨found, renders⟩
      exact (escapes_bind_iff _ _).mpr (.inr ⟨_, made, (saved grows renders).mpr unnamed⟩)

/-- A derivation has an outcome exactly if it writes the file for its format. -/
theorem outcome_eq_ok_iff [Ruler] {target : FilePath} {after : FileTree} :
    d.outcome fresh tree = .ok (target, after) ↔ d.Writes fresh tree format target after := by
  constructor
  · intro made
    obtain ⟨p, loaded, made⟩ := ok_of_except_bind made
    obtain ⟨w, derived, made⟩ := ok_of_except_bind made
    obtain ⟨⟨place, text⟩, rendered, made⟩ := ok_of_except_bind made
    obtain ⟨tree', saved, same⟩ := ok_of_except_bind made
    cases same
    obtain ⟨found, renders⟩ := (rendered_eq_ok_iff given named drawn).mp rendered
    exact ⟨p, w, text, ⟨loaded, derived⟩, renders, found, saved⟩
  · rintro ⟨p, w, text, ⟨loaded, derived⟩, renders, found, saved⟩
    have rendered := (rendered_eq_ok_iff given named drawn).mpr ⟨found, renders⟩
    simp only [outcome, loaded, derived, rendered, saved, bind, Except.bind]
    rfl

end Derivation

/-- A derivation to a text format either writes one file, the whole text of the format for the word
that the plant grows into, and ends with the exit code zero, or writes nothing and ends with the
exit code one, or lets an error escape.  An error escapes exactly if a path cannot be asked for, if
the file of a document has no name, or if its canvas is unfit for the drawing, and then nothing is
written, or if the file is written and the terminal cannot show its name. -/
theorem perform_derive_outcome [Ruler] (d : Derivation) (around : Surroundings) (tree : FileTree)
    {format : Format} {output : FilePath} (given : d.format = some format)
    (named : d.output = some output) (drawn : format ≠ .png) :
    let run := Request.perform ⟨.derive d, false⟩ around tree
    ((∃ e, run.1 = .error e) ↔ d.GoesUnreported around.fresh tree output format ∨
        ∃ target, d.Writes around.fresh tree format target run.2 ∧
          around.terminal.canShow (Derivation.answer target) = false) ∧
      (d.GoesUnreported around.fresh tree output format → run.2 = tree) ∧
      ∀ ending, run.1 = .ok ending →
        (ending.code = 0 ∧ ∃ p w text target, d.Grows around.fresh tree p w ∧
          d.Renders p w format text ∧ d.target format = .ok target ∧
          tree.HasWritten target (Text.encode text) run.2) ∨
        (ending.code = 1 ∧ run.2 = tree) := by
  intro run
  rw [← d.escapes_outcome_iff given named drawn]
  simp only [← d.outcome_eq_ok_iff given named drawn]
  refine ⟨Request.perform_derive_error_iff d around tree,
    Request.perform_derive_keeps d around tree, fun ending ends => ?_⟩
  rcases Request.perform_derive_ok d around tree ends with ⟨zero, target, outcome⟩ | failed
  · obtain ⟨p, w, text, grows, renders, found, saved⟩ :=
      (d.outcome_eq_ok_iff given named drawn).mp outcome
    exact .inl ⟨zero, p, w, text, target, grows, renders, found,
      FileTree.hasWritten_of_save saved⟩
  · exact .inr failed

/-- A tree with the file of a plant that stays one line. -/
def lineTree : FileTree := ⟨[(["p.plant"], Text.encode "initial: F\nF -> F\n")], []⟩

/-- The derivation of that plant. -/
def lineDerivation (format : Format) (output : FilePath) : Derivation where
  file := FilePath.ofText "p.plant"
  output := some output
  width := .whole 500
  height := .whole 500
  format := some format

/-- That derivation on a terminal for UTF-8. -/
def lineRun (format : Format) (output : FilePath) : Except Error Ending × FileTree :=
  Request.perform ⟨.derive (lineDerivation format output), false⟩ ⟨.utf8, .ofSeed 0⟩ lineTree

/-- A path with a byte that is no UTF-8. -/
def bytePath : FilePath := .ofText (String.ofList (Text.kept 0xdcff))

/-- The line is written to `f.svg`.  Asked for with the arguments `p.plant -o .`, it has no file to
be written to, and the error escapes.  Its word is written to a path with a byte that is no UTF-8,
and then the error of the terminal escapes. -/
theorem perform_derive_outcome_line :
    (∃ ending, (lineRun .svg (.ofText "f.svg")).1 = .ok ending ∧ ending.code = 0 ∧
        ∃ text, lineTree.HasWritten (.ofText "f.svg") (Text.encode text)
          (lineRun .svg (.ofText "f.svg")).2) ∧
      (Derivation.ofArguments ["p.plant", "-o", "."] = .ok (lineDerivation .svg (.ofText ".")) ∧
        (lineDerivation .svg (.ofText ".")).GoesUnreported (.ofSeed 0) lineTree (.ofText ".") .svg ∧
        (lineRun .svg (.ofText ".")).2 = lineTree) ∧
      (∃ e, (lineRun .text bytePath).1 = .error e) ∧
        (lineDerivation .text bytePath).Writes (.ofSeed 0) lineTree .text bytePath
          (lineRun .text bytePath).2 := by
  have document : Format.svg ≠ .png := by decide
  refine ⟨?_, ⟨rfl, ?_⟩, ?_⟩
  · have code : (lineRun .svg (.ofText "f.svg")).1.toOption.map Ending.code = some 0 := by
      decide +kernel
    have place : (lineDerivation .svg (.ofText "f.svg")).target .svg = .ok (.ofText "f.svg") := rfl
    obtain ⟨-, -, endings⟩ := perform_derive_outcome (lineDerivation .svg (.ofText "f.svg"))
      ⟨.utf8, .ofSeed 0⟩ lineTree rfl rfl document
    cases ends : (lineRun .svg (.ofText "f.svg")).1 with
    | error e => rw [ends] at code; cases code
    | ok ending =>
      rw [ends] at code
      obtain ⟨zero, p, w, text, target, -, -, found, written⟩ | ⟨one, -⟩ := endings ending ends
      · obtain rfl := Except.ok.inj (place.symm.trans found)
        exact ⟨ending, rfl, zero, text, written⟩
      · rw [Except.toOption, Option.map, one] at code
        cases code
  · have fails : (lineRun .svg (.ofText ".")).1.toOption.isNone = true := by decide +kernel
    obtain ⟨escapes, keeps, -⟩ := perform_derive_outcome (lineDerivation .svg (.ofText "."))
      ⟨.utf8, .ofSeed 0⟩ lineTree rfl rfl document
    cases ends : (lineRun .svg (.ofText ".")).1 with
    | ok ending => rw [ends] at fails; cases fails
    | error e =>
      obtain unreported | ⟨target, ⟨_, _, _, -, -, found, -⟩, -⟩ := escapes.mp ⟨e, ends⟩
      · exact ⟨unreported, keeps unreported⟩
      · cases found
  · have fails : (lineRun .text bytePath).1.toOption.isNone = true := by decide +kernel
    have second : (lineRun .text bytePath).2.files.length = 2 := by decide +kernel
    obtain ⟨escapes, keeps, -⟩ := perform_derive_outcome (lineDerivation .text bytePath)
      ⟨.utf8, .ofSeed 0⟩ lineTree rfl rfl (by decide : Format.text ≠ .png)
    cases ends : (lineRun .text bytePath).1 with
    | ok ending => rw [ends] at fails; cases fails
    | error e =>
      refine ⟨⟨e, rfl⟩, ?_⟩
      obtain unreported | ⟨target, writes, -⟩ := escapes.mp ⟨e, ends⟩
      · have kept : (lineRun .text bytePath).2 = lineTree := keeps unreported
        rw [kept] at second
        cases second
      · obtain ⟨_, _, _, -, -, found, -⟩ := id writes
        obtain rfl := Except.ok.inj ((Derivation.target_text rfl).symm.trans found)
        exact writes

end CommandLine

end GrowthGrammar
