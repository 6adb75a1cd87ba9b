import GrowthGrammar.CodeTable
import GrowthGrammar.Draft
import GrowthGrammar.Guarded

/-!
# Vocabularies and name tables

A vocabulary hands out the codes 0, 1, 2, … in the order names are first seen.
Codes are never reused or changed.

A name table is a vocabulary behind a lock.  Entering a name looks it up under
the lock held for reading and, if it is new, looks again and adds it under the
lock held for writing.  The two sections are `Vocabulary.symbol?` and
`Vocabulary.symbol`.

A text is read into a table only after all of it has been checked, names
included.
-/

namespace GrowthGrammar

/-- The names seen so far, with their codes. -/
structure Vocabulary where
  /-- The codes of the names. -/
  codes : CodeTable
  /-- They are in step. -/
  inStep : codes.InStep
  deriving DecidableEq, Repr

namespace Vocabulary

/-- No names. -/
def empty : Vocabulary := ⟨.empty, CodeTable.empty_inStep⟩

/-- Some names, each with its place as its code. -/
def ofNames (names : List String) : Vocabulary :=
  ⟨.ofNames names, CodeTable.ofNames_inStep names⟩

/-- The names in the order they were first seen. -/
def names (v : Vocabulary) : List String := v.codes.names

/-- The number of names. -/
def size (v : Vocabulary) : Nat := v.codes.codeOf.length

/-- The code of a name. -/
def code? (v : Vocabulary) (name : String) : Option Nat := v.codes.code? name

/-- The name of a code. -/
def name? (v : Vocabulary) (code : Int) : Option String :=
  if code < 0 then none else v.codes.name? code.toNat

/-- The code under a datum, which may be anything that is a key. -/
def codeUnder (v : Vocabulary) (d : Datum) : Except Error (Option Nat) :=
  match d with
  | .text name => .ok (v.code? name)
  | d => if d.isKey then .ok none else .error .wrongType

/-- The name under a datum, which may be anything that is a key. -/
def nameUnder (v : Vocabulary) (d : Datum) : Except Error (Option String) :=
  match d.whole? with
  | some code => .ok (v.name? code)
  | none => if d.isKey then .ok none else .error .wrongType

/-- The symbol of a name that has been seen. -/
def symbol? (v : Vocabulary) (name : String) : Option Symbol :=
  (v.code? name).map fun code => ⟨code, name⟩

/-- The vocabulary with the next code for a new name. -/
def add (v : Vocabulary) (name : String) (new : v.code? name = none) : Vocabulary :=
  ⟨v.codes.add name, v.inStep.add new⟩

/-- The symbol of a name, which is added if it is new. -/
def symbol (v : Vocabulary) (name : String) : Symbol × Vocabulary :=
  match new : v.code? name with
  | some code => (⟨code, name⟩, v)
  | none => (⟨v.codes.next, name⟩, v.add name new)

/-- The vocabulary gave the symbol its code. -/
def contains (v : Vocabulary) (s : Symbol) : Bool :=
  v.name? s.code == some s.name

/-- All symbols, by code. -/
def symbols (v : Vocabulary) : Word :=
  (v.codes.nameOf.mergeSort fun a b => a.1 ≤ b.1).map fun (code, name) => ⟨code, name⟩

end Vocabulary

/-- A vocabulary behind a lock. -/
abbrev NameTable := Guarded Vocabulary

namespace NameTable

/-- A table without names. -/
def new (timeout : Timeout) : NameTable :=
  ⟨Lock.free "symbol table" timeout, .empty⟩

/-- The symbol of a valid name, which is added if it is new. -/
def enter (name : String) : Step NameTable Symbol := do
  match Name.fault? name with
  | some fault => throw (.parse (.written (.name fault)))
  | none =>
    match ← Guarded.read (·.symbol? name) with
    | some s => return s
    | none => Guarded.write (·.symbol name)

/-- The symbols of some valid names, in order, after those in `done`, the newest
first. -/
def enterFrom (done : Word) : List String → Step NameTable Word
  | [] => return done.reverse
  | name :: rest => do
    let s ← enter name
    enterFrom (s :: done) rest

/-- The symbols of some valid names, in order. -/
def enterAll (names : List String) : Step NameTable Word :=
  enterFrom [] names

/-- The symbol of a datum that is a valid name. -/
def enterDatum (d : Datum) : Step NameTable Symbol :=
  match Name.ofDatum d with
  | .error fault => throw (.parse (.written (.name fault)))
  | .ok name => enter name

/-- The code under a datum. -/
def lookUpCode (d : Datum) : Step NameTable (Option Nat) := do
  match ← Guarded.read (·.codeUnder d) with
  | .ok found => return found
  | .error e => throw e

/-- The name under a datum. -/
def lookUpName (d : Datum) : Step NameTable (Option String) := do
  match ← Guarded.read (·.nameUnder d) with
  | .ok found => return found
  | .error e => throw e

/-- The symbol under a datum. -/
def find (d : Datum) : Step NameTable (Option Symbol) := do
  return (← lookUpCode d).map fun code => ⟨code, d.plain⟩

/-- The name of a code. -/
def nameAt (code : Int) : Step NameTable (Option String) :=
  Guarded.read (·.name? code)

/-- The table gave the symbol its code. -/
def contains (s : Symbol) : Step NameTable Bool := do
  return (← nameAt s.code) == some s.name

/-- The part is a symbol of the table or a name that has been seen. -/
def holds : Part → Step NameTable Bool
  | .symbol s => contains s
  | .datum (.text name) => do return (← lookUpCode (.text name)).isSome
  | .datum _ => return false

/-- The number of names. -/
def size : Step NameTable Nat :=
  Guarded.read Vocabulary.size

/-- All symbols, by code. -/
def symbols : Step NameTable Word :=
  Guarded.read Vocabulary.symbols

/-- A table as a message shows it. -/
def shown : Step NameTable String := do
  return "SymbolTable(" ++ toString (← size) ++ " symbols)"

/-! ## Reading text into a table -/

/-- Go on with what a text writes. -/
def ofWritten {α : Type} (written : Except WrittenFault α) : Step NameTable α :=
  match written with
  | .error fault => throw (.parse (.written fault))
  | .ok found => return found

/-- The word that a text writes. -/
def readWord (text : String) : Step NameTable Word := do
  let names := tokensOf text.toList
  ofWritten (checkNames names)
  enterAll names

end NameTable

end GrowthGrammar
