import GrowthGrammar.Datum

/-!
# Locks

A lock guards something shared.  Any number of readers may hold it together,
and a writer holds it alone.  An acquisition waits up to a timeout; nothing here
runs beside it, so one that cannot be granted at once runs into its timeout.
Only then does it matter whether the timeout is a number of seconds and whether so
long a wait can be measured.  Releasing a lock that is not held is an error too.

A failed call leaves the lock as it was.
-/

namespace GrowthGrammar

/-- How long an acquisition waits.  A number of seconds keeps the form it was
given in. -/
inductive Timeout
  /-- Without end. -/
  | forever
  /-- A whole number of seconds. -/
  | whole (seconds : Int)
  /-- Some seconds. -/
  | real (seconds : Float)
  /-- One second or none, given as a truth value. -/
  | truth (b : Bool)
  /-- Something that is no number of seconds. -/
  | senseless

namespace Timeout

/-- The timeout that a datum gives. -/
def ofDatum : Datum → Timeout
  | .null => .forever
  | .int n => .whole n
  | .real x => .real x
  | .bool b => .truth b
  | _ => .senseless

/-- A timeout as a message shows it. -/
def shown : Timeout → String
  | .forever => (Datum.null).shown
  | .whole n => toString n
  | .real x => Decimal.exact x
  | .truth b => (Datum.bool b).shown
  | .senseless => ""

/-- The longest wait that can be measured, in seconds. -/
def longest : Nat := 9223372036

/-- A wait of this timeout can be measured. -/
def isMeasurable : Timeout → Bool
  | .whole n => n ≤ longest
  | .real x => x ≤ Float.ofNat longest
  | _ => true

end Timeout

/-- The two ways to hold a lock. -/
inductive Access
  /-- Together with other readers. -/
  | reading
  /-- Alone. -/
  | writing
  deriving DecidableEq, Repr

/-- Why a lock refuses a call. -/
inductive LockFault
  /-- The wait for the named lock ended. -/
  | timedOut (access : Access) (after : Timeout) (name : String)
  /-- The named lock was released without being held. -/
  | notHeld (access : Access) (name : String)
  /-- The wait is no number of seconds. -/
  | noSeconds
  /-- The wait is too long to be measured. -/
  | tooLong

/-- The wording of a fault. -/
def LockFault.message : LockFault → String
  | .timedOut .reading after name =>
    "timed out after " ++ after.shown ++ "s waiting to read " ++ name
  | .timedOut .writing after name =>
    "timed out after " ++ after.shown ++ "s waiting to write " ++ name
  | .notHeld .reading name => name ++ " released for reading without being held"
  | .notHeld .writing name => name ++ " released for writing without being held"
  | .noSeconds => "the timeout is no number of seconds"
  | .tooLong => "the timeout is too long to be measured"

/-- A lock and who holds it. -/
structure Lock where
  /-- The name messages use. -/
  name : String
  /-- The wait of an acquisition that names none. -/
  timeout : Timeout
  /-- The number of readers that hold it. -/
  readers : Nat
  /-- A writer holds it. -/
  writing : Bool

namespace Lock

/-- A lock that nobody holds. -/
def free (name : String) (timeout : Timeout) : Lock := ⟨name, timeout, 0, false⟩

/-- What comes of a wait for a lock that is not given back. -/
def waitFault (lock : Lock) (access : Access) (timeout : Option Timeout) : LockFault :=
  match timeout.getD lock.timeout with
  | .senseless => .noSeconds
  | after => if after.isMeasurable then .timedOut access after lock.name else .tooLong

/-- Hold the lock as a reader, unless a writer does. -/
def takeShared (lock : Lock) (timeout : Option Timeout) : Except LockFault Lock :=
  if lock.writing then .error (lock.waitFault .reading timeout)
  else .ok { lock with readers := lock.readers + 1 }

/-- One reader fewer. -/
def leaveShared (lock : Lock) : Except LockFault Lock :=
  if lock.readers = 0 then .error (.notHeld .reading lock.name)
  else .ok { lock with readers := lock.readers - 1 }

/-- Hold the lock as its writer, unless anybody holds it. -/
def takeAlone (lock : Lock) (timeout : Option Timeout) : Except LockFault Lock :=
  if lock.writing || lock.readers != 0 then
    .error (lock.waitFault .writing timeout)
  else .ok { lock with writing := true }

/-- No writer any more. -/
def leaveAlone (lock : Lock) : Except LockFault Lock :=
  if lock.writing then .ok { lock with writing := false }
  else .error (.notHeld .writing lock.name)

end Lock

end GrowthGrammar
