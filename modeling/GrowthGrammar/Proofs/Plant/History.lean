import GrowthGrammar.Proofs.Plant.Sheet

/-!
# Plants and the texts before them

A plant that is read after other texts is not the plant that an empty workspace gives: its system
stands elsewhere, and the codes of its symbols depend on every name that is in the table by then,
those of refused texts too.  But no one can see the difference.  Two plants that follow the same
sheet look alike (`Follows.looksLike`): their rules and their initial words have the same texts,
whatever they are derived with gives words that look alike or the same error, and so does a turtle
that walks over these words.

Main statement: whatever has been read before, a text gives the error that it gives in an empty
workspace or a plant that looks like the one there (`read_looksLike_fresh`).
-/

namespace GrowthGrammar

/-! ## Words that look alike -/

/-- Neither their texts nor the walks of turtles tell the words apart. -/
structure Word.LooksLike [Ruler] (w w' : Word) : Prop where
  text : w.text = w'.text
  walk : ∀ (turtle : TurtleSettings) (start : Option (Pose Float)),
    turtle.walk w start = turtle.walk w' start

namespace TurtleSettings

theorem actionsOf_eq_map_names (s : TurtleSettings) (w : Word) :
    s.actionsOf w = w.names.map s.actionOf := by
  rw [actionsOf, Word.names, List.map_map]
  rfl

theorem underflowAt_eq (w : Word) (place : Nat) :
    underflowAt w place = .underflow (w.names[place]?.getD "") place := by
  rw [underflowAt, Word.names, List.getElem?_map]

/-- A turtle sees only the names of a word, also when it cannot go on. -/
theorem walk_eq_of_names [Ruler] (s : TurtleSettings) {w w' : Word} (same : w.names = w'.names)
    (start : Option (Pose Float)) : s.walk w start = s.walk w' start := by
  have faults : underflowAt w = underflowAt w' := by
    funext place
    rw [underflowAt_eq, underflowAt_eq, same]
  rw [walk, walk, actionsOf_eq_map_names, actionsOf_eq_map_names, same, faults]

end TurtleSettings

theorem Word.looksLike_of_names [Ruler] {w w' : Word} (same : w.names = w'.names) :
    w.LooksLike w' :=
  ⟨by rw [text, text, same], fun turtle start => turtle.walk_eq_of_names same start⟩

namespace Plant

/-! ## Plants that look alike -/

/-- What can be seen of the first plant in its workspace is what can be seen of the second one in
its own. -/
structure LooksLike [Ruler] (p : Plant) (ws : Workspace) (p' : Plant) (ws' : Workspace) : Prop where
  run : p.run = p'.run
  turtle : p.turtle = p'.turtle
  initial : p.initial.LooksLike p'.initial
  rules : ∃ listed listed', (p.rules.runFrom ws).1 = .ok listed ∧
    (p'.rules.runFrom ws').1 = .ok listed' ∧ listed.map Rule.text = listed'.map Rule.text
  derive : ∀ (settings : Schedule) (fresh : Random.Generator),
    Corresponds Eq Word.LooksLike (({ p with run := settings }.derive fresh).runFrom ws).1
      (({ p' with run := settings }.derive fresh).runFrom ws').1

theorem texts_eq_of_written {rules rules' : List Rule}
    (spelled : rules.map Rule.written = rules'.map Rule.written) :
    rules.map Rule.text = rules'.map Rule.text := by
  have text (all : List Rule) :
      all.map Rule.text = (all.map Rule.written).map WrittenRule.text := by
    rw [List.map_map]
    exact List.map_congr_left fun r _ => (Rule.text_written r).symm
  rw [text, text, spelled]

/-- Two plants that follow one sheet look alike, each in its workspace. -/
theorem Follows.looksLike [Ruler] {p p' : Plant} {ws ws' : Workspace} {s : Sheet}
    (follows : p.Follows ws s)
    (follows' : p'.Follows ws' s) : p.LooksLike ws p' ws' := by
  obtain ⟨⟨table, system, rules, hosts, ready, written, known⟩, initial, run, turtle⟩ := follows
  obtain ⟨⟨table', system', rules', hosts', ready', written', known'⟩, initial', run', turtle'⟩ :=
    follows'
  have names : p.initial.names = p'.initial.names := initial.trans initial'.symm
  have spelled : rules.map Rule.written = rules'.map Rule.written := written.trans written'.symm
  constructor
  case run => exact run.trans run'.symm
  case turtle => exact turtle.trans turtle'.symm
  case initial => exact Word.looksLike_of_names names
  case rules =>
    refine ⟨_, _, ?_, ?_, texts_eq_of_written (ready'.listing_written ready spelled)⟩
    · rw [Plant.rules, hosts.onSystem_runFrom, ready.toList_runFrom]
    · rw [Plant.rules, hosts'.onSystem_runFrom, ready'.toList_runFrom]
  case derive =>
    intro settings fresh
    have derived := ready'.derive_names ready spelled known' known names settings fresh
    rw [Plant.derive, Plant.derive, hosts.onSystem_runFrom, hosts'.onSystem_runFrom]
    exact (Corresponds.of_map_eq derived).mono (fun _ _ same => same)
      fun _ _ same => Word.looksLike_of_names same

/-- Two workspaces that serve plants give plants that look alike, or the same error. -/
theorem Serves.read_alike [Ruler] {ws ws' after after' : Workspace} (serves : Serves ws)
    (serves' : Serves ws') (text : List Char) {outcome outcome' : Except Error Plant}
    (run : (Plant.read text).runFrom ws = (outcome, after))
    (run' : (Plant.read text).runFrom ws' = (outcome', after')) :
    Corresponds Eq (fun p p' => p.LooksLike after p' after') outcome outcome' := by
  obtain ⟨-, outcomes⟩ := serves.read text run
  obtain ⟨-, outcomes'⟩ := serves'.read text run'
  generalize sheet text = found at outcomes outcomes'
  cases outcomes with
  | error same =>
    cases outcomes' with
    | error same' => exact .error (same.trans same'.symm)
  | ok follows =>
    cases outcomes' with
    | ok follows' => exact .ok (follows.looksLike follows')

/-- Whatever has been read before, a text gives the error that it gives in an empty workspace, or a
plant that looks like the one there. -/
theorem read_looksLike_fresh [Ruler] (history : List (List Char)) (text : List Char) :
    (∃ e after fresh, (read text).runFrom (afterReading history) = (.error e, after) ∧
        (read text).runFrom .empty = (.error e, fresh)) ∨
      ∃ p after p' fresh, (read text).runFrom (afterReading history) = (.ok p, after) ∧
        (read text).runFrom .empty = (.ok p', fresh) ∧ p.LooksLike after p' fresh := by
  rcases run : (read text).runFrom (afterReading history) with ⟨outcome, after⟩
  rcases run' : (read text).runFrom .empty with ⟨outcome', fresh⟩
  have alike := (serves_afterReading history).read_alike (.inl rfl) text run run'
  cases alike with
  | error same =>
    obtain rfl := same
    exact .inl ⟨_, after, fresh, rfl, rfl⟩
  | ok looks => exact .inr ⟨_, after, _, fresh, rfl, rfl, looks⟩

end Plant

end GrowthGrammar
