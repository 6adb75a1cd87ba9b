import GrowthGrammar.Datum.Fields

/-!
# Code tables

A code table gives codes to names.  It keeps the code of each name and the name of each
code in two dictionaries, and the next code.  A new name gets that code, and both
dictionaries get the pair.

The two dictionaries and the counter are in step (`InStep`): the dictionaries hold the
same pairs, and the codes are those below the next one, in their order.  An empty table
is in step, and a table stays in step with every name it gets (`InStep.add`): the next
code is no code yet, and only a name without a code is added.  So a table in step is the
list of its names, and the code of a name is its place there (`InStep.eq_ofNames`).
-/

namespace GrowthGrammar

/-- The codes of some names. -/
structure CodeTable where
  /-- The code of each name. -/
  codeOf : List (String × Nat)
  /-- The name of each code. -/
  nameOf : List (Nat × String)
  /-- The code of the next new name. -/
  next : Nat
  deriving DecidableEq, Repr

namespace CodeTable

/-- No names. -/
def empty : CodeTable := ⟨[], [], 0⟩

/-- The names in the order in which they got their codes. -/
def names (t : CodeTable) : List String := t.codeOf.map Prod.fst

/-- The code of a name. -/
def code? (t : CodeTable) (name : String) : Option Nat := Datum.getField? name t.codeOf

/-- The name of a code. -/
def name? (t : CodeTable) (code : Nat) : Option String := Datum.getField? code t.nameOf

/-- The table with the next code for a name. -/
def add (t : CodeTable) (name : String) : CodeTable where
  codeOf := Datum.setField name t.next t.codeOf
  nameOf := Datum.setField t.next name t.nameOf
  next := t.next + 1

/-- The table of some names, each with its place as its code. -/
def ofNames (names : List String) : CodeTable where
  codeOf := names.zipIdx
  nameOf := names.zipIdx.map Prod.swap
  next := names.length

@[simp]
theorem names_ofNames (names : List String) : (ofNames names).names = names :=
  List.zipIdx_map_fst 0 names

theorem code?_eq_none_iff (t : CodeTable) (name : String) :
    t.code? name = none ↔ name ∉ t.names :=
  Datum.getField?_eq_none_iff

/-- A name without a code comes behind all others. -/
theorem codeOf_add {t : CodeTable} {name : String} (new : t.code? name = none) :
    (t.add name).codeOf = t.codeOf ++ [(name, t.next)] :=
  Datum.setField_of_fresh ((t.code?_eq_none_iff name).mp new)

theorem names_add {t : CodeTable} {name : String} (new : t.code? name = none) :
    (t.add name).names = t.names ++ [name] := by
  rw [names, codeOf_add new, List.map_append]
  rfl

/-- The dictionaries and the counter are in step. -/
structure InStep (t : CodeTable) : Prop where
  /-- The dictionaries hold the same pairs. -/
  paired : t.codeOf = t.nameOf.map Prod.swap
  /-- The codes are those below the next one, in their order. -/
  dense : t.nameOf.map Prod.fst = List.range t.next

theorem empty_inStep : empty.InStep := ⟨rfl, rfl⟩

theorem ofNames_inStep (names : List String) : (ofNames names).InStep where
  paired := by simp [ofNames]
  dense := by
    rw [ofNames, List.map_map, List.range_eq_range']
    exact List.zipIdx_map_snd 0 names

namespace InStep

variable {t : CodeTable} (inStep : t.InStep)

include inStep

/-- The next code is no code yet. -/
theorem nameOf_add (name : String) : (t.add name).nameOf = t.nameOf ++ [(t.next, name)] := by
  refine Datum.setField_of_fresh ?_
  rw [inStep.dense]
  exact List.not_mem_range_self

theorem add {name : String} (new : t.code? name = none) : (t.add name).InStep where
  paired := by
    rw [codeOf_add new, inStep.nameOf_add, inStep.paired, List.map_append]
    rfl
  dense := by
    rw [inStep.nameOf_add, List.map_append, inStep.dense, CodeTable.add, List.range_succ]
    rfl

theorem codes_eq : t.codeOf.map Prod.snd = List.range t.next := by
  rw [inStep.paired, List.map_map, ← inStep.dense]
  rfl

theorem length_names : t.names.length = t.next := by
  have counted := congrArg List.length inStep.codes_eq
  rwa [List.length_map, List.length_range, ← List.length_map] at counted

/-- A table in step is determined by its names. -/
theorem eq_ofNames : t = ofNames t.names := by
  have pairs : t.codeOf = t.names.zipIdx := by
    rw [List.zipIdx_eq_zip_range', inStep.length_names, ← List.range_eq_range', ← inStep.codes_eq]
    exact List.zip_of_prod rfl rfl
  have turned : t.nameOf = t.names.zipIdx.map Prod.swap := by
    rw [← pairs, inStep.paired, List.map_map, Prod.swap_swap_eq, List.map_id]
  obtain ⟨codeOf, nameOf, next⟩ := t
  exact congr (congr (congrArg CodeTable.mk pairs) turned) inStep.length_names.symm

theorem code?_eq (name : String) : t.code? name = t.names.findIdx? (· == name) := by
  have same := congrArg codeOf inStep.eq_ofNames
  rw [code?, same]
  exact Datum.getField?_zipIdx name t.names

theorem name?_eq (code : Nat) : t.name? code = t.names[code]? := by
  have same := congrArg nameOf inStep.eq_ofNames
  rw [name?, same]
  exact Datum.getField?_swap_zipIdx t.names code

/-- The names by code are in order already. -/
theorem sorted_nameOf : (t.nameOf.mergeSort fun a b => a.1 ≤ b.1) = t.nameOf := by
  have ordered : (t.nameOf.map Prod.fst).Pairwise (· ≤ ·) :=
    inStep.dense ▸ List.pairwise_le_range
  exact List.mergeSort_of_pairwise (by simpa using List.pairwise_map.mp ordered)

end InStep

end CodeTable

end GrowthGrammar
