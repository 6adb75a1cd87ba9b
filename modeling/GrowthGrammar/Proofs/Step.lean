import GrowthGrammar.Error

/-!
# Runs of computations

What a computation does is what `Step.runFrom` gives: its outcome and the state
after it.  Each building block of a computation has one equation here, so that a
proof about a longer one rewrites its run block by block and never opens the
monad.

A bind either goes on with the value of its first part (`runFrom_bind_ok`) or
ends where that part failed (`runFrom_bind_error`).  So it fails if its first part does
or if what comes after it does (`fails_bind_iff`), and with no other errors than theirs
(`ErrorsOnly.bind`).  A computation keeps a part of the state (`Step.Keeps`) if it leaves
it as it was whatever its outcome is, and it preserves a property of states
(`Step.Preserves`) if it never leads out of it.
-/

namespace GrowthGrammar

namespace Step

variable {σ τ α β : Type}

@[simp]
theorem runFrom_pure (a : α) (s : σ) : (pure a : Step σ α).runFrom s = (.ok a, s) := rfl

@[simp]
theorem runFrom_throw (e : Error) (s : σ) :
    (throw e : Step σ α).runFrom s = (.error e, s) := rfl

@[simp]
theorem runFrom_get (s : σ) : (get : Step σ σ).runFrom s = (.ok s, s) := rfl

@[simp]
theorem runFrom_modify (f : σ → σ) (s : σ) :
    (modify f : Step σ PUnit).runFrom s = (.ok ⟨⟩, f s) := rfl

@[simp]
theorem runFrom_ofRun (f : σ → Except Error α × σ) (s : σ) : (ofRun f).runFrom s = f s := rfl

@[simp]
theorem runFrom_mk_pure (outcome : Except Error α) (s : σ) :
    Step.runFrom (ExceptT.mk (pure outcome) : Step σ α) s = (outcome, s) := rfl

@[simp]
theorem runFrom_look (f : σ → Except Error α) (s : σ) : (look f).runFrom s = (f s, s) := rfl

@[simp]
theorem runFrom_on (part : σ → τ) (put : τ → σ → σ) (x : Step τ α) (s : σ) :
    (on part put x).runFrom s =
      ((x.runFrom (part s)).1, put (x.runFrom (part s)).2 s) := rfl

@[simp]
theorem runFrom_mapError (f : Error → Error) (x : Step σ α) (s : σ) :
    (mapError f x).runFrom s = ((x.runFrom s).1.mapError f, (x.runFrom s).2) := rfl

/-- The run of a bind, by the outcome of its first part. -/
theorem runFrom_bind (x : Step σ α) (f : α → Step σ β) (s : σ) :
    (x >>= f).runFrom s =
      match x.runFrom s with
      | (.ok a, s') => (f a).runFrom s'
      | (.error e, s') => (.error e, s') := by
  simp only [runFrom, ExceptT.run, StateT.run, bind, ExceptT.bind, ExceptT.mk, StateT.bind]
  cases x s with
  | mk outcome s' => cases outcome <;> rfl

@[simp]
theorem runFrom_map (f : α → β) (x : Step σ α) (s : σ) :
    (f <$> x).runFrom s = ((x.runFrom s).1.map f, (x.runFrom s).2) := by
  rw [← bind_pure_comp, runFrom_bind]
  rcases x.runFrom s with ⟨outcome, s'⟩
  cases outcome <;> rfl

/-- A bind goes on where its first part ended. -/
theorem runFrom_bind_ok {x : Step σ α} {s s' : σ} {a : α} (h : x.runFrom s = (.ok a, s'))
    (f : α → Step σ β) : (x >>= f).runFrom s = (f a).runFrom s' := by
  rw [runFrom_bind, h]

/-- A bind fails where its first part failed. -/
theorem runFrom_bind_error {x : Step σ α} {s s' : σ} {e : Error}
    (h : x.runFrom s = (.error e, s')) (f : α → Step σ β) :
    (x >>= f).runFrom s = (.error e, s') := by
  rw [runFrom_bind, h]

/-- A computation without its result leaves the same state. -/
theorem state_of_discard (x : Step σ α) (s : σ) :
    ((do let _ ← x : Step σ Unit).runFrom s).2 = (x.runFrom s).2 := by
  simp

/-- A bind that succeeds is two computations that succeed. -/
theorem ok_of_runFrom_bind {x : Step σ α} {f : α → Step σ β} {s s'' : σ} {b : β}
    (h : (x >>= f).runFrom s = (.ok b, s'')) :
    ∃ a s', x.runFrom s = (.ok a, s') ∧ (f a).runFrom s' = (.ok b, s'') := by
  rw [runFrom_bind] at h
  rcases run : x.runFrom s with ⟨outcome, s'⟩
  rw [run] at h
  cases outcome with
  | ok a => exact ⟨a, s', rfl, h⟩
  | error e => cases h

/-! ## Failing -/

/-- The computation fails from a state. -/
def Fails (x : Step σ α) (s : σ) : Prop := ∃ e s', x.runFrom s = (.error e, s')

theorem not_fails_iff (x : Step σ α) (s : σ) :
    ¬ x.Fails s ↔ ∃ a s', x.runFrom s = (.ok a, s') := by
  rw [Fails]
  rcases x.runFrom s with ⟨outcome, s'⟩
  cases outcome with
  | ok a => simp
  | error e => simp

theorem not_fails_pure (a : α) (s : σ) : ¬ (Pure.pure a : Step σ α).Fails s :=
  (not_fails_iff _ s).mpr ⟨a, s, rfl⟩

theorem fails_bind_iff (x : Step σ α) (f : α → Step σ β) (s : σ) :
    (x >>= f).Fails s ↔ x.Fails s ∨ ∃ a s', x.runFrom s = (.ok a, s') ∧ (f a).Fails s' := by
  rw [Fails, Fails, runFrom_bind]
  rcases x.runFrom s with ⟨outcome, s'⟩
  cases outcome with
  | ok a => simp [Fails, and_assoc]
  | error e => simp

/-- If it depends on the item alone whether its step fails, then the steps of all items
fail if one of them does. -/
theorem mapM_fails_iff {f : α → Step σ β} {bad : α → Prop} {items : List α}
    (fails : ∀ a ∈ items, ∀ s, (f a).Fails s ↔ bad a) (s : σ) :
    (items.mapM f).Fails s ↔ ∃ a ∈ items, bad a := by
  induction items generalizing s with
  | nil => simpa using not_fails_pure ([] : List β) s
  | cons a rest ih =>
    obtain ⟨here, later⟩ := List.forall_mem_cons.mp fails
    have last (b : β) (s : σ) :
        (rest.mapM f >>= fun bs => (Pure.pure (b :: bs) : Step σ (List β))).Fails s ↔
          ∃ a ∈ rest, bad a := by
      rw [fails_bind_iff, ih later]
      simp [not_fails_pure]
    rw [List.mapM_cons, fails_bind_iff, here s]
    simp only [List.mem_cons, exists_eq_or_imp]
    constructor
    · rintro (failed | ⟨b, s', -, failed⟩)
      · exact .inl failed
      · exact .inr ((last b s').mp failed)
    · intro some
      refine Classical.or_iff_not_imp_left.mpr fun good => ?_
      obtain ⟨b, s', run⟩ := (not_fails_iff _ _).mp fun failed => good ((here s).mp failed)
      exact ⟨b, s', run, (last b s').mpr (some.resolve_left good)⟩

/-- Only errors with a property can end the computation. -/
def ErrorsOnly (P : Error → Prop) (x : Step σ α) : Prop :=
  ∀ s e s', x.runFrom s = (.error e, s') → P e

theorem ErrorsOnly.pure (P : Error → Prop) (a : α) : ErrorsOnly P (Pure.pure a : Step σ α) :=
  fun _ _ _ run => by cases run

theorem ErrorsOnly.bind {P : Error → Prop} {x : Step σ α} {f : α → Step σ β}
    (first : ErrorsOnly P x) (second : ∀ a, ErrorsOnly P (f a)) : ErrorsOnly P (x >>= f) := by
  intro s e s'' run
  rw [runFrom_bind] at run
  rcases before : x.runFrom s with ⟨outcome, s'⟩
  rw [before] at run
  cases outcome with
  | ok a => exact second a s' e s'' run
  | error other =>
    cases run
    exact first s _ _ before

/-! ## Parts of the state that are kept -/

/-- The computation leaves a part of the state as it was, whatever its outcome is. -/
def Keeps (part : σ → τ) (x : Step σ α) : Prop :=
  ∀ s, part (x.runFrom s).2 = part s

theorem Keeps.pure (part : σ → τ) (a : α) : Keeps part (Pure.pure a : Step σ α) :=
  fun _ => rfl

theorem Keeps.throw (part : σ → τ) (e : Error) :
    Keeps part (MonadExcept.throw e : Step σ α) :=
  fun _ => rfl

theorem Keeps.bind {part : σ → τ} {x : Step σ α} {f : α → Step σ β} (first : Keeps part x)
    (second : ∀ a, Keeps part (f a)) : Keeps part (x >>= f) := by
  intro s
  have kept := first s
  rw [runFrom_bind]
  rcases run : x.runFrom s with ⟨outcome, s'⟩
  rw [run] at kept
  cases outcome with
  | ok a => exact (second a s').trans kept
  | error e => exact kept

/-! ## Properties of the state that are kept -/

/-- The computation leads from states with a property to states with it, whatever its
outcome is. -/
def Preserves (I : σ → Prop) (x : Step σ α) : Prop :=
  ∀ s, I s → I (x.runFrom s).2

theorem Preserves.bind {I : σ → Prop} {x : Step σ α} {f : α → Step σ β}
    (first : Preserves I x) (second : ∀ a, Preserves I (f a)) : Preserves I (x >>= f) := by
  intro s holds
  have between := first s holds
  rw [runFrom_bind]
  rcases run : x.runFrom s with ⟨outcome, s'⟩
  rw [run] at between
  cases outcome with
  | ok a => exact second a s' between
  | error e => exact between

theorem Preserves.look (I : σ → Prop) (f : σ → Except Error α) : Preserves I (Step.look f) :=
  fun _ holds => holds

theorem Preserves.pure (I : σ → Prop) (a : α) : Preserves I (Pure.pure a : Step σ α) :=
  fun _ holds => holds

end Step

end GrowthGrammar
