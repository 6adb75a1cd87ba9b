import GrowthGrammar.Proofs.Step
import Mathlib.Data.List.Forall2

/-!
# Computations that run alike

Two computations over one kind of state run alike if, from whatever state both of them start,
they end in the same state with outcomes that correspond (`Step.Alike`): both give results that
one relation holds between, or both fail with errors that another one holds between.

Computations that are built in the same way from parts that run alike do so too.  For a bind
the second parts only have to run alike on results that correspond, and for a loop the bodies
on items that do.
-/

namespace GrowthGrammar

variable {α α' β β' ι κ σ : Type} {E : Error → Error → Prop}

/-- Both outcomes are results between which `R` holds, or both are errors between which `E`
holds. -/
inductive Corresponds (E : Error → Error → Prop) (R : α → α' → Prop) :
    Except Error α → Except Error α' → Prop
  | ok {a : α} {a' : α'} : R a a' → Corresponds E R (.ok a) (.ok a')
  | error {e e' : Error} : E e e' → Corresponds E R (.error e) (.error e')

theorem Corresponds.mono {E' : Error → Error → Prop} {R R' : α → α' → Prop} {x : Except Error α}
    {y : Except Error α'} (related : Corresponds E R x y) (errors : ∀ e e', E e e' → E' e e')
    (results : ∀ a a', R a a' → R' a a') : Corresponds E' R' x y := by
  cases related with
  | ok holds => exact .ok (results _ _ holds)
  | error holds => exact .error (errors _ _ holds)

/-- Outcomes whose errors are the same and whose results have the same view look the same. -/
theorem Corresponds.map_eq {view : α → β} {view' : α' → β} {x : Except Error α}
    {y : Except Error α'} (related : Corresponds Eq (fun a a' => view a = view' a') x y) :
    x.map view = y.map view' := by
  cases related with
  | ok same => exact congrArg Except.ok same
  | error same => exact congrArg Except.error same

theorem Corresponds.of_map_eq {view : α → β} {view' : α' → β} {x : Except Error α}
    {y : Except Error α'} (same : x.map view = y.map view') :
    Corresponds Eq (fun a a' => view a = view' a') x y := by
  cases x <;> cases y
  case ok.ok => exact .ok (Except.ok.inj same)
  case error.error => exact .error (Except.error.inj same)
  all_goals cases same

namespace Step

/-- From every state the computations end in the same state, with outcomes that correspond. -/
def Alike (E : Error → Error → Prop) (R : α → α' → Prop) (x : Step σ α) (y : Step σ α') : Prop :=
  ∀ s, Corresponds E R (x.runFrom s).1 (y.runFrom s).1 ∧ (x.runFrom s).2 = (y.runFrom s).2

variable {R : α → α' → Prop} {S : β → β' → Prop} {x : Step σ α} {y : Step σ α'}

theorem Alike.pure {a : α} {a' : α'} (holds : R a a') :
    Alike E R (Pure.pure a : Step σ α) (Pure.pure a') :=
  fun _ => ⟨.ok holds, rfl⟩

theorem Alike.mono {R' : α → α' → Prop} (alike : Alike E R x y)
    (weaker : ∀ a a', R a a' → R' a a') : Alike E R' x y :=
  fun s => ⟨(alike s).1.mono (fun _ _ same => same) weaker, (alike s).2⟩

theorem Alike.bind {f : α → Step σ β} {g : α' → Step σ β'} (first : Alike E R x y)
    (second : ∀ a a', R a a' → Alike E S (f a) (g a')) : Alike E S (x >>= f) (y >>= g) := by
  intro s
  obtain ⟨outcomes, states⟩ := first s
  rw [runFrom_bind, runFrom_bind]
  rcases left : x.runFrom s with ⟨outcome, t⟩
  rcases right : y.runFrom s with ⟨outcome', t'⟩
  rw [left, right] at outcomes states
  obtain rfl : t = t' := states
  cases outcomes with
  | ok holds => exact second _ _ holds t
  | error holds => exact ⟨.error holds, rfl⟩

/-- A loop over items runs like a loop over their images if the bodies do. -/
theorem Alike.mapM {φ : ι → κ} {f : ι → Step σ α} {g : κ → Step σ α'} {items : List ι}
    (bodies : ∀ i ∈ items, Alike E R (f i) (g (φ i))) :
    Alike E (List.Forall₂ R) (items.mapM f) ((items.map φ).mapM g) := by
  induction items with
  | nil => exact .pure .nil
  | cons i rest ih =>
    obtain ⟨here, later⟩ := List.forall_mem_cons.mp bodies
    rw [List.map_cons, List.mapM_cons, List.mapM_cons]
    refine .bind here fun a a' first => ?_
    refine .bind (ih later) fun as as' others => ?_
    exact .pure (.cons first others)

end Step

end GrowthGrammar
