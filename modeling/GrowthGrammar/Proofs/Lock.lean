import GrowthGrammar.Proofs.Guarded

/-!
# Runs of a lock

Anybody may take a lock and give it back, in any order.  A call that the lock refuses changes
nothing (`Guarded.perform_of_error`), so the readers are those that came in and did not leave
(`Guarded.Counts`).  Since a reader is let in only without a writer, and a writer only without
anybody, a writer is never beside readers (`Guarded.counts_afterUses`).
-/

namespace GrowthGrammar

namespace Lock

/-- A call on a lock. -/
inductive Use
  /-- Hold it as a reader. -/
  | takeShared (timeout : Option Timeout)
  /-- One reader fewer. -/
  | leaveShared
  /-- Hold it as its writer. -/
  | takeAlone (timeout : Option Timeout)
  /-- No writer any more. -/
  | leaveAlone

namespace Use

/-- What a call makes of a lock. -/
def change : Use → Lock → Except LockFault Lock
  | .takeShared timeout, lock => lock.takeShared timeout
  | .leaveShared, lock => lock.leaveShared
  | .takeAlone timeout, lock => lock.takeAlone timeout
  | .leaveAlone, lock => lock.leaveAlone

/-- Make a call on the lock of something. -/
def perform {α : Type} (use : Use) : Step (Guarded α) Unit := Guarded.lockStep use.change

/-- A reader comes in. -/
def enters : Use → Bool
  | .takeShared _ => true
  | _ => false

/-- A reader leaves. -/
def leaves : Use → Bool
  | .leaveShared => true
  | _ => false

end Use

/-- No writer holds the lock beside readers. -/
def IsProper (lock : Lock) : Prop := ¬ (lock.writing = true ∧ lock.readers ≠ 0)

theorem free_isProper (name : String) (timeout : Timeout) : (free name timeout).IsProper :=
  fun both => Bool.false_ne_true both.1

end Lock

namespace Guarded

open Lock (Use)

variable {α : Type}

/-- What is left after some calls on the lock. -/
def afterUses (g : Guarded α) (uses : List Use) : Guarded α :=
  uses.foldl (fun g use => (use.perform.runFrom g).2) g

/-- The calls that the lock grants, when some calls are made one after the other. -/
def granted (g : Guarded α) : List Use → List Use
  | [] => []
  | use :: rest =>
    match use.perform.runFrom g with
    | (.ok _, now) => use :: now.granted rest
    | (.error _, now) => now.granted rest

/-! ## One call -/

/-- A call is granted and changes the lock alone, or it is refused and changes nothing. -/
theorem perform_cases (use : Use) (g : Guarded α) :
    (∃ lock, use.change g.lock = .ok lock ∧
        use.perform.runFrom g = (.ok (), { g with lock := lock })) ∨
      ∃ fault, use.change g.lock = .error fault ∧
        use.perform.runFrom g = (.error (.lock fault), g) := by
  rw [Use.perform, lockStep, Step.runFrom_ofRun]
  cases use.change g.lock with
  | ok lock => exact .inl ⟨lock, rfl, rfl⟩
  | error fault => exact .inr ⟨fault, rfl, rfl⟩

/-- A call that the lock refuses changes nothing. -/
theorem perform_of_error {use : Use} {g now : Guarded α} {e : Error}
    (refused : use.perform.runFrom g = (.error e, now)) : now = g := by
  rcases perform_cases use g with ⟨lock, -, granted⟩ | ⟨fault, -, run⟩
  · rw [granted] at refused
    cases refused
  · rw [run] at refused
    cases refused
    rfl

end Guarded

namespace Lock

/-- Every granted call keeps the writer away from readers and counts the readers. -/
theorem Use.change_ok {use : Use} {lock now : Lock} (proper : lock.IsProper)
    (granted : use.change lock = .ok now) :
    now.IsProper ∧ now.readers + use.leaves.toNat = lock.readers + use.enters.toNat ∧
      now.name = lock.name ∧ now.timeout = lock.timeout := by
  cases use with
  | takeShared timeout =>
    simp only [change, Lock.takeShared] at granted
    split at granted
    · cases granted
    case isFalse notWriting =>
      cases granted
      exact ⟨fun both => notWriting both.1, rfl, rfl, rfl⟩
  | leaveShared =>
    simp only [change, Lock.leaveShared] at granted
    split at granted
    · cases granted
    case isFalse some =>
      cases granted
      refine ⟨fun both => proper ⟨both.1, some⟩, ?_, rfl, rfl⟩
      exact Nat.succ_pred_eq_of_ne_zero some
  | takeAlone timeout =>
    simp only [change, Lock.takeAlone] at granted
    split at granted
    · cases granted
    case isFalse nobody =>
      cases granted
      refine ⟨fun both => nobody ?_, rfl, rfl, rfl⟩
      rw [Bool.or_eq_true, bne_iff_ne]
      exact .inr both.2
  | leaveAlone =>
    simp only [change, Lock.leaveAlone] at granted
    split at granted
    · cases granted
      exact ⟨fun both => Bool.false_ne_true both.1, rfl, rfl, rfl⟩
    · cases granted

end Lock

namespace Guarded

open Lock (Use)

variable {α : Type}

/-! ## All calls -/

/-- What the calls on a lock come to. -/
structure Counts (before now : Guarded α) (granted : List Use) : Prop where
  /-- There is no writer beside readers. -/
  proper : now.lock.IsProper
  /-- The readers are those that came in and did not leave. -/
  readers : now.lock.readers + granted.countP Use.leaves =
    before.lock.readers + granted.countP Use.enters
  /-- The name of the lock is as it was. -/
  name : now.lock.name = before.lock.name
  /-- The wait of the lock is as it was. -/
  timeout : now.lock.timeout = before.lock.timeout
  /-- What the lock guards is as it was. -/
  value : now.value = before.value

theorem countP_cons_toNat (p : Use → Bool) (use : Use) (rest : List Use) :
    (use :: rest).countP p = (p use).toNat + rest.countP p := by
  rw [List.countP_cons, Nat.add_comm]
  cases p use <;> rfl

/-- Calls on a proper lock leave a proper lock, whose readers are counted by the calls. -/
theorem counts_afterUses {g : Guarded α} (proper : g.lock.IsProper) (uses : List Use) :
    Counts g (g.afterUses uses) (g.granted uses) := by
  induction uses generalizing g with
  | nil => exact ⟨proper, rfl, rfl, rfl, rfl⟩
  | cons use rest ih =>
    rcases perform_cases use g with ⟨lock, changed, run⟩ | ⟨fault, -, run⟩
    · obtain ⟨properNow, readers, name, timeout⟩ := Use.change_ok proper changed
      have later := ih (g := { g with lock := lock }) properNow
      have split : g.granted (use :: rest) =
          use :: ({ g with lock := lock } : Guarded α).granted rest := by
        simp only [granted, run]
      have state : g.afterUses (use :: rest) =
          ({ g with lock := lock } : Guarded α).afterUses rest := by
        rw [afterUses, List.foldl_cons, run]
        rfl
      rw [split, state]
      refine ⟨later.proper, ?_, later.name.trans name, later.timeout.trans timeout, later.value⟩
      have counted := later.readers
      rw [countP_cons_toNat, countP_cons_toNat]
      simp only at counted
      omega
    · have split : g.granted (use :: rest) = g.granted rest := by
        simp only [granted, run]
      have state : g.afterUses (use :: rest) = g.afterUses rest := by
        rw [afterUses, List.foldl_cons, run]
        rfl
      rw [split, state]
      exact ih proper

end Guarded

end GrowthGrammar
