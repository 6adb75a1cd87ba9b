/-!
# Fields

Fields are a dictionary: a value for each of some keys, which stand in the order in
which they were first set.  What is set is found, and nothing else changes
(`getField?_setField`).  A key that is new comes behind all others
(`setField_of_fresh`).

The items of a list with their places are two dictionaries: the place of each item,
which is the first one (`getField?_zipIdx`), and the item at each place
(`getField?_swap_zipIdx`).
-/

namespace GrowthGrammar.Datum

variable {κ α : Type} [BEq κ]

/-- Set a field, in its old place if there is one. -/
def setField (name : κ) (value : α) : List (κ × α) → List (κ × α)
  | [] => [(name, value)]
  | (n, v) :: rest =>
    if n == name then (n, value) :: rest else (n, v) :: setField name value rest

/-- The first value under a name. -/
def getField? (name : κ) (fields : List (κ × α)) : Option α :=
  (fields.find? fun f => f.1 == name).map Prod.snd

theorem getField?_cons (name first : κ) (value : α) (fields : List (κ × α)) :
    getField? name ((first, value) :: fields) =
      if first == name then some value else getField? name fields := by
  cases here : first == name <;> simp [getField?, here]

variable [LawfulBEq κ]

theorem getField?_eq_none_iff {name : κ} {fields : List (κ × α)} :
    getField? name fields = none ↔ name ∉ fields.map Prod.fst := by
  induction fields with
  | nil => simp [getField?]
  | cons f rest ih =>
    obtain ⟨first, value⟩ := f
    rw [getField?_cons, List.map_cons, List.mem_cons, not_or, ← ih]
    by_cases here : first = name
    · simp [here]
    · simp [here, Ne.symm here]

theorem getField?_setField (name changed : κ) (value : α) (fields : List (κ × α)) :
    getField? name (setField changed value fields) =
      if changed == name then some value else getField? name fields := by
  induction fields with
  | nil => rw [setField, getField?_cons]
  | cons f rest ih =>
    obtain ⟨first, old⟩ := f
    rw [setField]
    by_cases here : first = changed
    · subst here
      rw [if_pos BEq.rfl, getField?_cons, getField?_cons]
      split <;> rfl
    · rw [if_neg (by simpa using here), getField?_cons, getField?_cons, ih]
      by_cases same : first = name
      · subst same
        simp [Ne.symm here]
      · simp [same]

theorem setField_of_fresh {name : κ} {value : α} {fields : List (κ × α)}
    (fresh : name ∉ fields.map Prod.fst) :
    setField name value fields = fields ++ [(name, value)] := by
  induction fields with
  | nil => rfl
  | cons f more ih =>
    rw [List.map_cons, List.mem_cons, not_or] at fresh
    rw [setField, if_neg (by simpa using Ne.symm fresh.1), ih fresh.2]
    rfl

/-! ## Items and places -/

omit [LawfulBEq κ] in
theorem getField?_zipIdx_from (name : κ) (names : List κ) (k : Nat) :
    getField? name (names.zipIdx k) = (names.findIdx? (· == name)).map (· + k) := by
  induction names generalizing k with
  | nil => rfl
  | cons first rest ih =>
    rw [List.zipIdx_cons, getField?_cons, ih, List.findIdx?_cons]
    cases first == name with
    | true => simp
    | false =>
      simp only [Bool.false_eq_true, if_false, Option.map_map]
      exact congrArg (Option.map · _) (funext fun place => by simp only [Function.comp]; omega)

omit [LawfulBEq κ] in
theorem getField?_zipIdx (name : κ) (names : List κ) :
    getField? name names.zipIdx = names.findIdx? (· == name) := by
  rw [getField?_zipIdx_from]
  exact Option.map_id'

theorem getField?_swap_zipIdx_from (names : List α) (k place : Nat) :
    getField? (place + k) ((names.zipIdx k).map Prod.swap) = names[place]? := by
  induction names generalizing k place with
  | nil => rfl
  | cons first rest ih =>
    rw [List.zipIdx_cons, List.map_cons, Prod.swap_prod_mk, getField?_cons]
    cases place with
    | zero => simp
    | succ place =>
      rw [if_neg (by simp), show place + 1 + k = place + (k + 1) by omega, ih]
      simp

theorem getField?_swap_zipIdx (names : List α) (place : Nat) :
    getField? place (names.zipIdx.map Prod.swap) = names[place]? :=
  getField?_swap_zipIdx_from names 0 place

end GrowthGrammar.Datum
