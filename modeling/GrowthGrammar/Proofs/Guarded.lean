import GrowthGrammar.Guarded
import GrowthGrammar.Proofs.Step

/-!
# Access to a value behind a free lock

A lock is free when nobody holds it.  An access to a value behind a free lock is
never refused: reading gives what the function finds and leaves everything as it
was (`read_runFrom`), and writing replaces the value and nothing else
(`write_runFrom`).  So a lock that is free stays free through every access.
-/

namespace GrowthGrammar

/-- Nobody holds the lock. -/
def Lock.IsFree (lock : Lock) : Prop :=
  lock.writing = false ∧ lock.readers = 0

theorem Lock.free_isFree (name : String) (timeout : Timeout) :
    (Lock.free name timeout).IsFree :=
  ⟨rfl, rfl⟩

namespace Guarded

variable {α β : Type}

/-- A value behind a free lock can be read, and reading changes nothing. -/
theorem read_runFrom {g : Guarded α} (free : g.lock.IsFree) (f : α → β) :
    (Guarded.read f).runFrom g = (.ok (f g.value), g) := by
  obtain ⟨⟨name, timeout, readers, writing⟩, value⟩ := g
  obtain ⟨notWriting, noReaders⟩ := free
  simp only at notWriting noReaders
  subst notWriting noReaders
  rfl

/-- A value behind a free lock can be replaced, and nothing else changes. -/
theorem write_runFrom {g : Guarded α} (free : g.lock.IsFree) (f : α → β × α) :
    (Guarded.write f).runFrom g = (.ok (f g.value).1, { g with value := (f g.value).2 }) := by
  obtain ⟨⟨name, timeout, readers, writing⟩, value⟩ := g
  obtain ⟨notWriting, noReaders⟩ := free
  simp only at notWriting noReaders
  subst notWriting noReaders
  rfl

/-! ## Any lock -/

/-- Reading gives what the function finds, or the lock refuses it.  Nothing changes. -/
theorem read_cases (g : Guarded α) (f : α → β) :
    (Guarded.read f).runFrom g = (.ok (f g.value), g) ∨
      ∃ fault, (Guarded.read f).runFrom g = (.error (.lock fault), g) := by
  obtain ⟨⟨name, timeout, readers, writing⟩, value⟩ := g
  cases writing with
  | false => exact .inl rfl
  | true => exact .inr ⟨_, rfl⟩

/-- Writing replaces the value, or the lock refuses it and nothing changes. -/
theorem write_cases (g : Guarded α) (f : α → β × α) :
    (Guarded.write f).runFrom g = (.ok (f g.value).1, { g with value := (f g.value).2 }) ∨
      ∃ fault, (Guarded.write f).runFrom g = (.error (.lock fault), g) := by
  obtain ⟨⟨name, timeout, readers, writing⟩, value⟩ := g
  cases writing with
  | true => exact .inr ⟨_, rfl⟩
  | false =>
    cases readers with
    | zero => exact .inl rfl
    | succ readers => exact .inr ⟨_, rfl⟩

end Guarded

end GrowthGrammar
