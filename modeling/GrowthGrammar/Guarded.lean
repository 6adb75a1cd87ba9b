import GrowthGrammar.Error

/-!
# Values behind a lock

A `Guarded` value is only looked at while its lock is held for reading, and only
changed while it is held for writing.  Each access takes the lock, does its work
and gives the lock back, so it leaves the lock as it found it, and an access that
the lock refuses leaves the value as it was.
-/

namespace GrowthGrammar

/-- A value and the lock that guards it. -/
structure Guarded (α : Type) where
  /-- The lock. -/
  lock : Lock
  /-- The value. -/
  value : α

namespace Guarded

variable {α β : Type}

/-- Do something to the lock. -/
def lockStep (f : Lock → Except LockFault Lock) : Step (Guarded α) Unit :=
  Step.ofRun fun g =>
    match f g.lock with
    | .error fault => (.error (.lock fault), g)
    | .ok lock => (.ok (), { g with lock := lock })

/-- What a function finds in the value, read under the lock. -/
def read (f : α → β) : Step (Guarded α) β := do
  lockStep (·.takeShared none)
  let found := f (← get).value
  lockStep Lock.leaveShared
  return found

/-- Change the value under the lock. -/
def write (f : α → β × α) : Step (Guarded α) β := do
  lockStep (·.takeAlone none)
  let (result, changed) := f (← get).value
  modify fun g => { g with value := changed }
  lockStep Lock.leaveAlone
  return result

end Guarded

end GrowthGrammar
