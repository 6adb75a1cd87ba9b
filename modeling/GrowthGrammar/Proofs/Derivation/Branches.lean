import GrowthGrammar.Proofs.Derivation.Generations
import GrowthGrammar.Proofs.Turtle.Branches

/-!
# Branches in derived words

Rules that neither replace the symbols of branches nor close more than they open keep a
word walkable.  A pass replaces a symbol that leaves the depth as it is by a word that
closes only what it has opened, so the new word stays at least as deep at every place as the
old one (`Rewrites.depth`), whichever rule was chosen there.

Main statement: what a reached system with such rules derives from a word that closes only
opened branches never closes a branch that was not opened, and so every walk over it goes
through (`System.walk_of_derive`).
-/

namespace GrowthGrammar

open GrowthGrammar.Random (Generator)

namespace TurtleSettings

/-- The turtle neither opens nor closes a branch at the predecessor of the rule, and the
successor closes only branches that it has opened. -/
structure KeepsBranches (s : TurtleSettings) (r : Rule) : Prop where
  /-- The predecessor does nothing to branches. -/
  predecessor : (s.actionOf r.predecessor.name).IsNeutral
  /-- The successor closes only its own branches. -/
  successor : ClosesOnlyOpened (s.actionsOf r.successor)

theorem actionsOf_append (s : TurtleSettings) (w v : Word) :
    s.actionsOf (w ++ v) = s.actionsOf w ++ s.actionsOf v :=
  List.map_append

end TurtleSettings

namespace Derivation

variable {rules : List Rule} {settings : TurtleSettings}

/-- After a pass the count of open branches still goes through, from the same depth and from
every larger one. -/
theorem Rewrites.depth {w v : Word} (rewrites : Rewrites rules w v)
    (keeps : ∀ r ∈ rules, settings.KeepsBranches r)
    (named : ∀ r ∈ rules, ∀ s ∈ w, r.predecessor.same s = true → r.predecessor.name = s.name)
    {opened : Nat} (through : (depthAfter opened (settings.actionsOf w)).isSome) (more : Nat) :
    (depthAfter (opened + more) (settings.actionsOf v)).isSome := by
  induction rewrites generalizing opened more with
  | nil => rfl
  | keep s rewrites ih =>
    obtain ⟨after, counted⟩ := Option.isSome_iff_exists.mp through
    obtain ⟨between, here, rest⟩ := Option.bind_eq_some_iff.mp counted
    have later := ih (fun r member x inside => named r member x (List.mem_cons_of_mem _ inside))
      (Option.isSome_iff_exists.mpr ⟨after, rest⟩) more
    rw [TurtleSettings.actionsOf, List.map_cons, depthAfter, Action.depth_add here more]
    exact later
  | @replace s r w v member same rewrites ih =>
    have neutral := (keeps r member).predecessor
    rw [named r member s List.mem_cons_self same] at neutral
    rw [TurtleSettings.actionsOf, List.map_cons, depthAfter,
      Action.depth_of_isNeutral neutral] at through
    obtain ⟨deeper, inside⟩ := Option.isSome_iff_exists.mp
      ((closesOnlyOpened_iff _).mp (keeps r member).successor)
    have image := depthAfter_add inside (opened + more)
    rw [Nat.zero_add] at image
    -- what the successor leaves open is open for the rest of the word as well
    have later := ih (fun r member x inside => named r member x (List.mem_cons_of_mem _ inside))
      through (more + deeper)
    rw [TurtleSettings.actionsOf_append, depthAfter_append, image, Option.bind_some,
      Nat.add_comm deeper, Nat.add_assoc]
    exact later

end Derivation

namespace System

variable {tieBreak : TieBreak} {system : System} {rules : List Rule} {settings : TurtleSettings}

theorem Closed.closesOnlyOpened_of_pass (closed : Closed tieBreak system rules)
    (keeps : ∀ r ∈ rules, settings.KeepsBranches r) {w v : Word} {g g' : Generator}
    (known : system.Knows w) (opened : ClosesOnlyOpened (settings.actionsOf w))
    (run : (Derivation.pass system.store.frozen.rulebook w).runFrom g = (.ok v, g')) :
    ClosesOnlyOpened (settings.actionsOf v) := by
  have rewrites := Derivation.rewrites_of_pass closed.frozen_holds run
  have named : ∀ r ∈ rules, ∀ s ∈ w, r.predecessor.same s = true →
      r.predecessor.name = s.name := by
    intro r member s inside same
    have given := closed.known r member r.predecessor (by simp [Rule.symbols])
    exact Vocabulary.name_eq_of_same given (known s inside) same
  rw [closesOnlyOpened_iff] at opened ⊢
  exact rewrites.depth keeps named opened 0

/-- If no rule replaces a symbol of branches and every successor closes only branches that
it has opened, then so does every word that is derived from one that does: a walk over it
never fails for a branch, and with a usable heading it never fails. -/
theorem walk_of_derive [Ruler] (reached : Reached tieBreak system rules) (settings : TurtleSettings)
    (neutral : ∀ r ∈ rules, (settings.actionOf r.predecessor.name).IsNeutral)
    (successors : ∀ r ∈ rules, ClosesOnlyOpened (settings.actionsOf r.successor)) {w v : Word}
    (opened : ClosesOnlyOpened (settings.actionsOf w)) {schedule : Schedule}
    {fresh : Generator} {after : System}
    (derived : (derive schedule fresh w).runFrom system = (.ok v, after))
    (start : Option (Pose Float)) :
    (∀ pose, TurtleSettings.alignPose (start.getD settings.startPose) = .ok pose →
        ∃ path, settings.walk v start = .ok path) ∧
      ∀ e, settings.walk v start = .error e → e.kind ≠ .stackUnderflow := by
  have closed := reached.closed
  have keeps : ∀ r ∈ rules, settings.KeepsBranches r := fun r member =>
    ⟨neutral r member, successors r member⟩
  obtain ⟨known, g, run⟩ := ok_of_derive derived
  have lastOpened : system.Knows v ∧ ClosesOnlyOpened (settings.actionsOf v) := by
    refine Derivation.passes_keeps
      (I := fun u => system.Knows u ∧ ClosesOnlyOpened (settings.actionsOf u)) ?_
      ⟨known, opened⟩ run
    intro u u' g g' ⟨uKnown, uOpened⟩ pass
    exact ⟨closed.knows_of_pass uKnown pass,
      closed.closesOnlyOpened_of_pass keeps uKnown uOpened pass⟩
  refine ⟨fun pose usable => TurtleSettings.walk_of_closesOnlyOpened lastOpened.2 usable, ?_⟩
  intro e failed
  cases usable : TurtleSettings.alignPose (start.getD settings.startPose) with
  | ok pose =>
    obtain ⟨path, drawn⟩ := TurtleSettings.walk_of_closesOnlyOpened lastOpened.2 usable
    rw [drawn] at failed
    cases failed
  | error other =>
    rw [TurtleSettings.walk, usable] at failed
    cases failed
    simp [TurtleSettings.kind_of_alignPose usable]

/-- Two generations of `X` under `X -> [ X ] F` are a path for the usual turtle. -/
theorem walk_of_derive_of_one_rule :
    ∃ (system : System) (r : Rule) (v : Word), Reached .pool system [r] ∧
      v.names = ["[", "[", "X", "]", "F", "]", "F"] ∧
      (derive ⟨2, some 7⟩ (.ofSeed 0) [⟨1, "X"⟩]).runFrom system = (.ok v, system) ∧
      ∃ path, TurtleSettings.standard.walk v none = .ok path := by
  let r : Rule := ⟨⟨1, "X"⟩, [⟨2, "["⟩, ⟨1, "X"⟩, ⟨3, "]"⟩, ⟨0, "F"⟩], [], [], 1⟩
  let system := ofRules .pool ["F", "X", "[", "]"] [r]
  have weighted : r.IsWeighted := (Rule.isWeighted_iff r).mpr ⟨by decide, by decide⟩
  have reached : Reached .pool system [r] := reached_ofRules ⟨by decide, by decide⟩
    (List.forall_mem_singleton.mpr weighted) (by decide)
  have known : system.Knows [⟨1, "X"⟩] := by decide
  have grown (g : Generator) :
      ((Derivation.passes system.store.frozen.rulebook 2 [⟨1, "X"⟩]).runFrom g).1 =
        .ok [⟨2, "["⟩, ⟨2, "["⟩, ⟨1, "X"⟩, ⟨3, "]"⟩, ⟨0, "F"⟩, ⟨3, "]"⟩, ⟨0, "F"⟩] := rfl
  have derived := derive_runFrom (Lock.free_isFree _ _) (Lock.free_isFree _ _) known ⟨2, some 7⟩
    (.ofSeed 0)
  rw [grown] at derived
  have usable : ∃ pose, TurtleSettings.alignPose TurtleSettings.standard.startPose = .ok pose := by
    have aligned : (TurtleSettings.alignPose TurtleSettings.standard.startPose).isOk = true := by
      decide +kernel
    cases found : TurtleSettings.alignPose TurtleSettings.standard.startPose with
    | ok pose => exact ⟨pose, rfl⟩
    | error e =>
      rw [found] at aligned
      cases aligned
  obtain ⟨pose, aligned⟩ := usable
  obtain ⟨drawn, -⟩ := walk_of_derive reached TurtleSettings.standard
    (List.forall_mem_singleton.mpr (by decide)) (List.forall_mem_singleton.mpr (by decide))
    (by decide) derived none
  exact ⟨system, r, _, reached, rfl, derived, drawn pose aligned⟩

end System

end GrowthGrammar
