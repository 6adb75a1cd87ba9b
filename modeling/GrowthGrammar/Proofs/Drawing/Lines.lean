import Mathlib.Data.List.Basic
import GrowthGrammar.Drawing.Svg
import GrowthGrammar.Proofs.Plane.Bounds
import GrowthGrammar.Proofs.Plane.Runs
import GrowthGrammar.Proofs.Rule.Reading
import GrowthGrammar.Proofs.Turtle.Outcome

/-!
# Lines of a drawing

Between the actions that draw two consecutive edges the turtle stays at the end of the first,
unless it moves without drawing or goes back to a branch (`Walk.edges_meet`).  So the places in
the word where a polyline can begin are known without the plane: a finite end point is near
itself (`Edge.leadsTo_of_meets`), and each line but the first begins behind such an action of its
own (`length_le_countP`).

Main statement: where the lines of a drawing begin, and how many of them there are at most, as
polylines and as elements of the document (`TurtleSettings.lines_of_walk`).
-/

namespace GrowthGrammar

open Decimal.Binary64

/-! ## Jumps -/

/-- The action takes the turtle elsewhere without drawing. -/
def Action.IsJump (a : Action) : Prop := a = .pop ∨ a = .move

instance (a : Action) : Decidable a.IsJump := inferInstanceAs (Decidable (_ ∨ _))

/-- Between the actions number `j` and `j + 1` of those that draw there is a jump. -/
def JumpsAfter (actions : List Action) (j : Nat) : Prop :=
  ∃ k a, actions.idxOfNth .draw j < k ∧ k < actions.idxOfNth .draw (j + 1) ∧
    actions[k]? = some a ∧ a.IsJump

/-! ## Edges that meet -/

/-- What stands between an action that draws and the next one. -/
theorem exists_take_idxOfNth_succ {actions : List Action} {j : Nat}
    (bound : j + 1 < actions.count .draw) : ∃ between,
      actions.take (actions.idxOfNth .draw (j + 1)) =
        actions.take (actions.idxOfNth .draw j) ++ .draw :: between ∧
      ∀ a ∈ between, a ≠ .draw ∧ (a.IsJump → JumpsAfter actions j) := by
  have first : j < actions.count .draw := Nat.lt_of_succ_lt bound
  have order : actions.idxOfNth .draw j < actions.idxOfNth .draw (j + 1) := by
    rw [List.idxOfNth_lt_idxOfNth_iff_of_lt_count first]
    exact Nat.lt_succ_self j
  obtain ⟨d, next⟩ := Nat.exists_eq_add_of_lt order
  let between := (actions.drop (actions.idxOfNth .draw j + 1)).take d
  have split : actions.take (actions.idxOfNth .draw (j + 1)) =
      actions.take (actions.idxOfNth .draw j) ++ .draw :: between := by
    rw [next, Nat.add_assoc, List.take_add, drop_idxOfNth_draw first, List.take_succ_cons]
  -- one action that draws more has been counted, and that is the one in front
  have none : between.count .draw = 0 := by
    have total := count_take_idxOfNth_draw bound
    rw [split, List.count_append, List.count_cons_self, count_take_idxOfNth_draw first] at total
    omega
  refine ⟨between, split, fun a member => ⟨?_, fun jump => ?_⟩⟩
  · rintro rfl
    exact List.count_eq_zero.mp none member
  · obtain ⟨k, found⟩ := List.mem_iff_getElem?.mp member
    rw [List.getElem?_take, List.getElem?_drop] at found
    split at found
    case isTrue inside => exact ⟨_, a, by omega, by omega, found, jump⟩
    case isFalse => cases found

namespace Walk

variable {K : Type} [Add K] [Sub K] [Mul K] {g : Gait K} {w next : Walk K} {a : Action}
  {actions : List Action}

theorem position_of_act (still : a ≠ .draw ∧ ¬ a.IsJump) (acted : w.act g a = some next) :
    next.pose.position = w.pose.position := by
  obtain ⟨notDraw, noJump⟩ := still
  cases a with
  | draw => exact absurd rfl notDraw
  | move => exact absurd (.inr rfl) noJump
  | pop => exact absurd (.inl rfl) noJump
  | _ =>
    cases acted
    rfl

/-- Turns and openings of branches leave the turtle where it is. -/
theorem position_of_run (still : ∀ a ∈ actions, a ≠ .draw ∧ ¬ a.IsJump)
    (ran : w.run g actions = some next) : next.pose.position = w.pose.position := by
  induction actions generalizing w with
  | nil =>
    cases ran
    rfl
  | cons a rest ih =>
    obtain ⟨here, others⟩ := List.forall_mem_cons.mp still
    obtain ⟨between, acted, later⟩ := Option.bind_eq_some_iff.mp ran
    rw [ih others later, position_of_act here acted]

/-- Without a jump between them, an edge starts where the one before ends. -/
theorem edges_meet {pose : Pose K} {last : Walk K}
    (ran : (Walk.start pose).run g actions = some last) {j : Nat} {e f : Edge K}
    (here : last.path[j]? = some e) (next : last.path[j + 1]? = some f)
    (still : ¬ JumpsAfter actions j) : f.start = e.stop := by
  have length : last.path.length = 0 + actions.count .draw := length_path_of_run ran
  have bound : j + 1 < actions.count .draw := by
    rw [Nat.zero_add] at length
    rw [← length]
    exact (List.getElem?_eq_some_iff.mp next).1
  obtain ⟨turtle, before, edge⟩ := getElem?_path_of_run ran (Nat.lt_of_succ_lt bound)
  obtain ⟨turtle', before', edge'⟩ := getElem?_path_of_run ran bound
  rw [here, Option.some.injEq] at edge
  rw [next, Option.some.injEq] at edge'
  obtain ⟨between, split, others⟩ := exists_take_idxOfNth_succ bound
  rw [split, run_append, before, Option.bind_some, run_cons, act, Option.bind_some] at before'
  have position := position_of_run
    (fun a member => ⟨(others a member).1, mt (others a member).2 still⟩) before'
  rw [edge, edge', position]

end Walk

/-! ## Counting jumps -/

theorem countP_take_mono (actions : List Action) {i i' : Nat} (le : i ≤ i') :
    (actions.take i).countP (·.IsJump) ≤ (actions.take i').countP (·.IsJump) :=
  (List.take_prefix_take_left le).sublist.countP_le

/-- Up to the later of two drawings there is a jump more. -/
theorem countP_lt_of_jumpsAfter {actions : List Action} {j : Nat} (jumps : JumpsAfter actions j) :
    (actions.take (actions.idxOfNth .draw j)).countP (·.IsJump) <
      (actions.take (actions.idxOfNth .draw (j + 1))).countP (·.IsJump) := by
  obtain ⟨k, a, after, before, here, jump⟩ := jumps
  calc (actions.take (actions.idxOfNth .draw j)).countP (·.IsJump)
      ≤ (actions.take k).countP (·.IsJump) := countP_take_mono actions after.le
    _ < (actions.take k).countP (·.IsJump) + 1 := Nat.lt_succ_self _
    _ = (actions.take (k + 1)).countP (·.IsJump) := by
      rw [List.take_add_one, here, Option.toList_some, List.countP_append,
        List.countP_singleton, if_pos (decide_eq_true jump)]
    _ ≤ _ := countP_take_mono actions before

section

variable {α : Type} {actions : List Action} {groups : List (List α)}
  (inhabited : ∀ group ∈ groups, group ≠ [])
  (begins : ∀ before group after, groups = before ++ group :: after → before ≠ [] →
    ∃ j, before.flatten.length = j + 1 ∧ JumpsAfter actions j)

include inhabited begins

/-- If all groups but the first begin behind a jump, there have been as many jumps where a group
begins as there are groups before it. -/
theorem length_le_countP_take (before : List (List α)) {group : List α} {after : List (List α)}
    (cut : groups = before ++ group :: after) : before.length ≤
      (actions.take (actions.idxOfNth .draw before.flatten.length)).countP (·.IsJump) := by
  -- the last group before is cut off: the jump behind it comes after all that were counted
  induction before using List.reverseRecOn generalizing group after with
  | nil => exact Nat.zero_le _
  | append_singleton before last ih =>
    have shorter : groups = before ++ last :: group :: after := by
      rw [cut, List.append_assoc]
      rfl
    have some : 0 < last.length := List.length_pos_iff.mpr (inhabited last (by simp [cut]))
    obtain ⟨j, place, jump⟩ := begins _ group after cut (by simp)
    have earlier : before.flatten.length ≤ j := by
      rw [List.flatten_append, List.flatten_singleton, List.length_append] at place
      omega
    have more : before.length <
        (actions.take (actions.idxOfNth .draw (j + 1))).countP (·.IsJump) := calc
      before.length ≤ _ := ih shorter
      _ ≤ _ := countP_take_mono actions (List.idxOfNth_mono earlier)
      _ < _ := countP_lt_of_jumpsAfter jump
    rw [place, List.length_append]
    exact more

theorem length_le_countP : groups.length ≤ 1 + actions.countP (·.IsJump) := by
  cases last : groups.getLast? with
  | none =>
    rw [List.getLast?_eq_none_iff.mp last]
    exact Nat.zero_le _
  | some group =>
    obtain ⟨before, cut⟩ := List.getLast?_eq_some_iff.mp last
    have jumps := length_le_countP_take inhabited begins before cut
    rw [cut, List.length_append, List.length_singleton, Nat.add_comm]
    exact Nat.add_le_add_left (jumps.trans (List.take_sublist _ _).countP_le) 1

end

/-! ## Lines that begin -/

/-- An edge that starts where another has its finite end follows on it. -/
theorem Edge.leadsTo_of_meets {e f : Edge Float} (finite : e.stop.IsFinite)
    (meets : f.start = e.stop) : e.LeadsTo f := by
  have small {x : Float} (finiteX : x.isFinite = true) : (x - x).abs ≤ tolerance := by
    obtain ⟨finiteSub, zero⟩ := value_sub_self finiteX
    rw [le_iff_value (isFinite_abs finiteSub) isFinite_tolerance, value_abs finiteSub, zero,
      abs_zero]
    exact zero_le_tolerance
  rw [LeadsTo, meets]
  exact ⟨small finite.1, small finite.2⟩

namespace Path

/-- How many edges some lines stand for. -/
def traced {K : Type} (lines : List (List (Point K))) : Nat :=
  (lines.map fun points => points.length - 1).sum

theorem traced_map_polylineOf {K : Type} (runs : List (List (Edge K))) :
    traced (runs.map polylineOf) = runs.flatten.length := by
  have each (run : List (Edge K)) : (polylineOf run).length - 1 = run.length := by
    cases run with
    | nil => rfl
    | cons e rest => exact List.length_map _
  rw [traced, List.map_map, List.length_flatten]
  exact congrArg List.sum (List.map_congr_left fun run _ => each run)

end Path

/-! ## Elements of the document -/

namespace Element

mutual

/-- How many elements there are with a tag. -/
def tally (tag : String) : Element → Nat
  | .leaf here _ => if here = tag then 1 else 0
  | .node here _ children => (if here = tag then 1 else 0) + tallyAll tag children

/-- How many elements with a tag there are in some elements. -/
def tallyAll (tag : String) : List Element → Nat
  | [] => 0
  | e :: rest => tally tag e + tallyAll tag rest

end

end Element

namespace Drawing

/-- The document has a path element for each polyline and no other. -/
theorem tally_svgElement (canvas : Canvas) (fit : String)
    (polylines : List (List (Point Float))) :
    (svgElement canvas fit polylines).tally "path" = polylines.length := by
  have each : Element.tallyAll "path" (polylines.map polylineElement) = polylines.length := by
    induction polylines with
    | nil => rfl
    | cons points rest ih =>
      rw [List.map_cons, Element.tallyAll, ih, polylineElement, Element.tally, if_pos rfl,
        Nat.add_comm]
      rfl
  simp [svgElement, Element.tally, Element.tallyAll, each]

theorem tally_svgOf {canvas : Canvas} {path : Path Float} {doc : Element}
    (drawn : svgOf canvas path = .ok doc) : doc.tally "path" = path.polylines.length := by
  obtain ⟨_, -, drawn⟩ := ok_of_except_bind drawn
  obtain ⟨fit, -, drawn⟩ := ok_of_except_bind drawn
  obtain ⟨_, -, drawn⟩ := ok_of_except_bind drawn
  cases drawn
  exact tally_svgElement canvas fit path.polylines

end Drawing

/-! ## Lines of a walk -/

namespace TurtleSettings

variable {s : TurtleSettings} {w : Word} {start : Option (Pose Float)} {path : Path Float}

theorem edges_meet_of_walk [Ruler] (walked : s.walk w start = .ok path) {j : Nat} {e f : Edge Float}
    (here : path[j]? = some e) (next : path[j + 1]? = some f)
    (still : ¬ JumpsAfter (s.actionsOf w) j) : f.start = e.stop := by
  obtain ⟨last, ⟨pose, aligned, followed⟩, rfl⟩ := walk_eq_ok_iff.mp walked
  exact Walk.edges_meet (Walk.follow_eq_ok_iff.mp followed) here next still

/-- A run but the first begins behind a jump. -/
theorem jumpsAfter_of_runs [Ruler] (walked : s.walk w start = .ok path)
    (finite : ∀ p ∈ path.ends, p.IsFinite) {before after : List (List (Edge Float))}
    {run : List (Edge Float)} (cut : path.runs tolerance = before ++ run :: after)
    (later : before ≠ []) :
    ∃ j, before.flatten.length = j + 1 ∧ JumpsAfter (s.actionsOf w) j := by
  obtain ⟨j, e, f, place, here, next, apart⟩ := Path.exists_of_runs_eq_append cut later
  refine ⟨j, place, by_contra fun still => apart ?_⟩
  have stop : e.stop ∈ path.ends :=
    List.mem_flatMap.mpr ⟨e, List.mem_of_getElem? here, by simp⟩
  exact Edge.leadsTo_of_meets (finite _ stop) (edges_meet_of_walk walked here next still)

/-- The lines of a drawing.  Without a jump between them, an edge starts where the one before
ends.  If the coordinates are finite, then a line but the first begins behind a jump, so there is
at most one line more than there are jumps in the word, and no more path elements in a document
of the drawing. -/
theorem lines_of_walk [Ruler] (walked : s.walk w start = .ok path) :
    (∀ j e f, path[j]? = some e → path[j + 1]? = some f → ¬ JumpsAfter (s.actionsOf w) j →
        f.start = e.stop) ∧
      ((∀ p ∈ path.ends, p.IsFinite) →
        (∀ before points after, path.polylines = before ++ points :: after → before ≠ [] →
          ∃ j, Path.traced before = j + 1 ∧ JumpsAfter (s.actionsOf w) j) ∧
        path.polylines.length ≤ 1 + (s.actionsOf w).countP (·.IsJump) ∧
        ∀ canvas doc, Drawing.svgOf canvas path = .ok doc →
          doc.tally "path" ≤ 1 + (s.actionsOf w).countP (·.IsJump)) := by
  refine ⟨fun j e f => edges_meet_of_walk walked, fun finite => ?_⟩
  have atMost : path.polylines.length ≤ 1 + (s.actionsOf w).countP (·.IsJump) := by
    rw [Path.polylines, List.length_map]
    exact length_le_countP (fun run => Path.ne_nil_of_mem_runs)
      fun before run after => jumpsAfter_of_runs walked finite
  refine ⟨fun before points after cut later => ?_, atMost, fun canvas doc drawn => ?_⟩
  · obtain ⟨begun, rest, split, rfl, last⟩ := List.map_eq_append_iff.mp cut
    obtain ⟨run, others, rfl, -, -⟩ := List.map_eq_cons_iff.mp last
    rw [Path.traced_map_polylineOf]
    exact jumpsAfter_of_runs walked finite split (by rintro rfl; exact later rfl)
  · rw [Drawing.tally_svgOf drawn]
    exact atMost

/-- What goes on behind a branch is a line of its own; the opening of the branch makes none. -/
theorem lines_of_walk_branch :
    ∃ path : Path Float,
      standard.walk [⟨0, "F"⟩, ⟨1, "["⟩, ⟨0, "F"⟩, ⟨2, "]"⟩, ⟨0, "F"⟩] none = .ok path ∧
      (∀ p ∈ path.ends, p.IsFinite) ∧
      path.polylines = [[⟨0, 0⟩, ⟨0, 1⟩, ⟨0, 2⟩], [⟨0, 1⟩, ⟨0, 2⟩]] ∧
      (∃ j, Path.traced [[⟨(0 : Float), 0⟩, ⟨0, 1⟩, ⟨0, 2⟩]] = j + 1 ∧
        JumpsAfter [.draw, .push, .draw, .pop, .draw] j) ∧
      ∀ canvas doc, Drawing.svgOf canvas path = .ok doc → doc.tally "path" ≤ 2 := by
  have walked : standard.walk [⟨0, "F"⟩, ⟨1, "["⟩, ⟨0, "F"⟩, ⟨2, "]"⟩, ⟨0, "F"⟩] none =
      .ok [⟨⟨0, 0⟩, ⟨0, 1⟩⟩, ⟨⟨0, 1⟩, ⟨0, 2⟩⟩, ⟨⟨0, 1⟩, ⟨0, 2⟩⟩] :=
    walk_of_toOption (by decide +kernel)
  have finite : ∀ p ∈ Path.ends [(⟨⟨0, 0⟩, ⟨0, 1⟩⟩ : Edge Float), ⟨⟨0, 1⟩, ⟨0, 2⟩⟩,
      ⟨⟨0, 1⟩, ⟨0, 2⟩⟩], p.x.isFinite = true ∧ p.y.isFinite = true := by
    decide +kernel
  have cut : Path.polylines [⟨⟨0, 0⟩, ⟨0, 1⟩⟩, ⟨⟨0, 1⟩, ⟨0, 2⟩⟩, ⟨⟨0, 1⟩, ⟨0, 2⟩⟩] =
      [[⟨0, 0⟩, ⟨0, 1⟩, ⟨0, 2⟩], [⟨0, 1⟩, ⟨0, 2⟩]] := by
    decide +kernel
  obtain ⟨-, lines⟩ := lines_of_walk walked
  obtain ⟨begins, -, elements⟩ := lines finite
  exact ⟨_, walked, finite, cut, begins [_] _ [] cut (List.cons_ne_nil _ _), elements⟩

end TurtleSettings

end GrowthGrammar
