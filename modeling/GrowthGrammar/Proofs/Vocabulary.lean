import GrowthGrammar.Vocabulary

/-!
# Codes and names of a vocabulary

The codes of a vocabulary are in step, so a vocabulary is determined by the list of
its names (`Vocabulary.ext_names`), and the code of a name is its place.  Two facts
are invariants of everything that is done with one (`Vocabulary.Sound`): no name
stands twice, and every name is valid.  Under the first of them names and codes
are inverse to each other.

Vocabularies only grow at their end (`Vocabulary.Extends`), so a code that was
given once stays the code of its name.  `addAll` and `wordOf` say what entering
some names makes of a vocabulary and which symbols it gives: the names come to
stand in the order of their first occurrence (`names_addAll`).
-/

namespace GrowthGrammar

namespace Vocabulary

/-! ## Looking up -/

/-- A vocabulary is determined by its names. -/
theorem ext_names {v w : Vocabulary} (same : v.names = w.names) : v = w := by
  have codes : v.codes = w.codes := by
    rw [v.inStep.eq_ofNames, w.inStep.eq_ofNames]
    exact congrArg CodeTable.ofNames same
  obtain ⟨_, _⟩ := v
  cases codes
  rfl

theorem length_names (v : Vocabulary) : v.names.length = v.size :=
  List.length_map Prod.fst

theorem next_eq (v : Vocabulary) : v.codes.next = v.size :=
  v.inStep.length_names.symm.trans v.length_names

@[simp]
theorem names_empty : empty.names = [] := rfl

@[simp]
theorem names_ofNames (names : List String) : (ofNames names).names = names :=
  CodeTable.names_ofNames names

theorem name?_natCast (v : Vocabulary) (k : Nat) : v.name? k = v.names[k]? := by
  have notNegative : ¬ (k : Int) < 0 := by omega
  rw [name?, if_neg notNegative]
  exact v.inStep.name?_eq k

theorem name?_of_neg (v : Vocabulary) {code : Int} (h : code < 0) : v.name? code = none := by
  simp [name?, h]

/-- A code has a name exactly when it is below the number of names. -/
theorem isSome_name?_iff (v : Vocabulary) (code : Int) :
    (v.name? code).isSome ↔ 0 ≤ code ∧ code < v.size := by
  by_cases h : code < 0
  · rw [name?_of_neg v h, Option.isSome_none]
    simp only [Bool.false_eq_true, false_iff]
    omega
  · obtain ⟨k, rfl⟩ := Int.eq_ofNat_of_zero_le (Int.not_lt.mp h)
    simp [name?_natCast, length_names]

theorem mem_of_name? {v : Vocabulary} {code : Int} {name : String}
    (named : v.name? code = some name) : name ∈ v.names := by
  have inside := (isSome_name?_iff v code).mp (by simp [named])
  obtain ⟨k, rfl⟩ := Int.eq_ofNat_of_zero_le inside.1
  rw [name?_natCast] at named
  exact List.mem_of_getElem? named

theorem contains_iff (v : Vocabulary) (s : Symbol) :
    v.contains s = true ↔ v.name? s.code = some s.name := by
  simp [contains]

theorem code?_eq_findIdx? (v : Vocabulary) (name : String) :
    v.code? name = v.names.findIdx? (· == name) :=
  v.inStep.code?_eq name

theorem code?_eq_none_iff (v : Vocabulary) (name : String) :
    v.code? name = none ↔ name ∉ v.names :=
  v.codes.code?_eq_none_iff name

theorem mem_of_code? {v : Vocabulary} {name : String} {k : Nat} (h : v.code? name = some k) :
    name ∈ v.names := by
  refine Decidable.byContradiction fun absent => ?_
  rw [(code?_eq_none_iff v name).mpr absent] at h
  cases h

/-- The code of a name leads back to the name. -/
theorem name?_of_code? {v : Vocabulary} {name : String} {k : Nat} (h : v.code? name = some k) :
    v.name? k = some name := by
  rw [code?_eq_findIdx?, List.findIdx?_eq_some_iff_getElem] at h
  obtain ⟨inside, found, -⟩ := h
  rw [name?_natCast, List.getElem?_eq_getElem inside, eq_of_beq found]

/-- The symbols are listed by code, which is the order of the names. -/
theorem symbols_eq (v : Vocabulary) : v.symbols = v.names.mapIdx fun code name => ⟨code, name⟩ := by
  have pairs := congrArg CodeTable.nameOf v.inStep.eq_ofNames
  rw [symbols, v.inStep.sorted_nameOf, pairs, CodeTable.ofNames, List.map_map,
    List.mapIdx_eq_zipIdx_map]
  rfl

@[simp]
theorem names_symbols (v : Vocabulary) : v.symbols.names = v.names := by
  rw [symbols_eq]
  apply List.ext_getElem <;> simp [Word.names]

@[simp]
theorem codes_symbols (v : Vocabulary) : v.symbols.codes = (List.range v.size).map Int.ofNat := by
  rw [symbols_eq]
  apply List.ext_getElem <;> simp [Word.codes, length_names]

/-! ## Soundness -/

/-- What every vocabulary keeps: no name stands twice, and all are valid. -/
structure Sound (v : Vocabulary) : Prop where
  /-- No name stands twice. -/
  distinct : v.names.Nodup
  /-- Every name is valid. -/
  valid : ∀ name ∈ v.names, Name.IsValid name

theorem empty_sound : empty.Sound :=
  ⟨List.nodup_nil, by simp⟩

theorem ofNames_sound {names : List String} (distinct : names.Nodup)
    (valid : ∀ name ∈ names, Name.IsValid name) : (ofNames names).Sound :=
  ⟨(names_ofNames names).symm ▸ distinct, (names_ofNames names).symm ▸ valid⟩

/-- Names and codes of a sound vocabulary are inverse to each other. -/
theorem Sound.code?_iff {v : Vocabulary} (sound : v.Sound) {name : String} {k : Nat} :
    v.code? name = some k ↔ v.name? k = some name := by
  constructor
  · exact name?_of_code?
  · intro named
    cases found : v.code? name with
    | none => exact absurd (mem_of_name? named) ((code?_eq_none_iff v name).mp found)
    | some j =>
      have other := name?_of_code? found
      rw [name?_natCast] at named other
      have inside : j < v.names.length := (List.getElem?_eq_some_iff.mp other).1
      rw [(List.getElem?_inj inside sound.distinct).mp (other.trans named.symm)]

theorem Sound.contains_iff {v : Vocabulary} (sound : v.Sound) (s : Symbol) :
    v.contains s = true ↔ ∃ k : Nat, s.code = k ∧ v.code? s.name = some k := by
  rw [Vocabulary.contains_iff]
  constructor
  · intro named
    have inside := (isSome_name?_iff v s.code).mp (by simp [named])
    obtain ⟨k, hk⟩ := Int.eq_ofNat_of_zero_le inside.1
    exact ⟨k, hk, sound.code?_iff.mpr (hk ▸ named)⟩
  · rintro ⟨k, hk, found⟩
    rw [hk]
    exact name?_of_code? found

theorem Sound.valid_of_contains {v : Vocabulary} (sound : v.Sound) {s : Symbol}
    (issued : v.contains s = true) : Name.IsValid s.name := by
  obtain ⟨k, -, found⟩ := (sound.contains_iff s).mp issued
  exact sound.valid s.name (mem_of_code? found)

/-! ## Growth -/

/-- The second vocabulary holds the names of the first one, at their places, and
perhaps others behind them. -/
def Extends (v w : Vocabulary) : Prop := v.names <+: w.names

theorem Extends.refl (v : Vocabulary) : v.Extends v := List.prefix_rfl

theorem Extends.trans {u v w : Vocabulary} (uv : u.Extends v) (vw : v.Extends w) : u.Extends w :=
  List.IsPrefix.trans uv vw

/-- A code keeps its name. -/
theorem Extends.name? {v w : Vocabulary} (grown : v.Extends w) {code : Int} {name : String}
    (named : v.name? code = some name) : w.name? code = some name := by
  have inside := (isSome_name?_iff v code).mp (by simp [named])
  obtain ⟨k, rfl⟩ := Int.eq_ofNat_of_zero_le inside.1
  rw [name?_natCast] at named ⊢
  obtain ⟨more, joined⟩ := grown
  rw [← joined, List.getElem?_append_left (List.getElem?_eq_some_iff.mp named).1]
  exact named

/-- A name keeps its code. -/
theorem Extends.code? {v w : Vocabulary} (grown : v.Extends w) {name : String} {k : Nat}
    (found : v.code? name = some k) : w.code? name = some k := by
  obtain ⟨more, joined⟩ := grown
  rw [code?_eq_findIdx?] at found ⊢
  rw [← joined, List.findIdx?_append, found]
  rfl

theorem Extends.contains {v w : Vocabulary} (grown : v.Extends w) {s : Symbol}
    (issued : v.contains s = true) : w.contains s = true := by
  rw [contains_iff] at issued ⊢
  exact grown.name? issued

/-! ## Entering one name -/

theorem symbol?_of_seen {v : Vocabulary} {name : String} {k : Nat}
    (found : v.code? name = some k) : v.symbol? name = some ⟨k, name⟩ := by
  rw [symbol?, found]
  rfl

theorem symbol?_of_new {v : Vocabulary} {name : String} (new : v.code? name = none) :
    v.symbol? name = none := by
  rw [symbol?, new]
  rfl

theorem symbol_of_seen {v : Vocabulary} {name : String} {k : Nat} (found : v.code? name = some k) :
    v.symbol name = (⟨k, name⟩, v) := by
  rw [symbol]
  split
  · rename_i code first
    rw [found] at first
    cases first
    rfl
  · rename_i new
    rw [found] at new
    cases new

theorem symbol_of_new {v : Vocabulary} {name : String} (new : v.code? name = none) :
    v.symbol name = (⟨v.size, name⟩, v.add name new) := by
  rw [symbol, ← next_eq]
  split
  · rename_i code found
    rw [new] at found
    cases found
  · rfl

theorem names_add (v : Vocabulary) {name : String} (new : v.code? name = none) :
    (v.add name new).names = v.names ++ [name] :=
  CodeTable.names_add new

@[simp]
theorem symbol_name (v : Vocabulary) (name : String) : (v.symbol name).1.name = name := by
  cases found : v.code? name with
  | none => rw [symbol_of_new found]
  | some k => rw [symbol_of_seen found]

/-- The name is added behind all others, unless it stands there already. -/
theorem names_symbol (v : Vocabulary) (name : String) :
    (v.symbol name).2.names =
      if name ∈ v.names then v.names else v.names ++ [name] := by
  cases found : v.code? name with
  | none =>
    rw [symbol_of_new found, if_neg ((code?_eq_none_iff v name).mp found), names_add]
  | some k =>
    rw [symbol_of_seen found, if_pos (mem_of_code? found)]

theorem extends_symbol (v : Vocabulary) (name : String) : v.Extends (v.symbol name).2 := by
  rw [Extends, names_symbol]
  split
  · exact List.prefix_rfl
  · exact List.prefix_append _ _

/-- What a vocabulary gives, it contains. -/
theorem contains_symbol (v : Vocabulary) (name : String) :
    (v.symbol name).2.contains (v.symbol name).1 = true := by
  rw [contains_iff]
  cases found : v.code? name with
  | none =>
    rw [symbol_of_new found, name?_natCast, names_add, ← length_names]
    simp
  | some k =>
    rw [symbol_of_seen found]
    exact name?_of_code? found

/-- The symbol of a name that is contained is given again, and nothing is added. -/
theorem Sound.symbol_of_contains {v : Vocabulary} (sound : v.Sound) {s : Symbol}
    (issued : v.contains s = true) : v.symbol s.name = (s, v) := by
  obtain ⟨k, hk, found⟩ := (sound.contains_iff s).mp issued
  rw [symbol_of_seen found, ← hk]

theorem Sound.symbol {v : Vocabulary} (sound : v.Sound) {name : String}
    (valid : Name.IsValid name) : (v.symbol name).2.Sound := by
  constructor
  · rw [names_symbol]
    split
    · exact sound.distinct
    · rename_i unseen
      exact List.nodup_append.mpr
        ⟨sound.distinct, by simp, by rintro a ha b hb rfl; simp_all⟩
  · intro other member
    rw [names_symbol] at member
    split at member
    · exact sound.valid other member
    · rcases List.mem_append.mp member with old | new
      · exact sound.valid other old
      · rw [List.mem_singleton.mp new]
        exact valid

/-! ## Entering some names -/

/-- The vocabulary after some names were entered one after the other. -/
def addAll (v : Vocabulary) : List String → Vocabulary
  | [] => v
  | name :: rest => (v.symbol name).2.addAll rest

/-- The symbols that some names get when they are entered one after the other. -/
def wordOf (v : Vocabulary) : List String → Word
  | [] => []
  | name :: rest => (v.symbol name).1 :: (v.symbol name).2.wordOf rest

@[simp]
theorem addAll_nil (v : Vocabulary) : v.addAll [] = v := rfl

@[simp]
theorem wordOf_nil (v : Vocabulary) : v.wordOf [] = [] := rfl

theorem addAll_cons (v : Vocabulary) (name : String) (rest : List String) :
    v.addAll (name :: rest) = (v.symbol name).2.addAll rest := rfl

theorem wordOf_cons (v : Vocabulary) (name : String) (rest : List String) :
    v.wordOf (name :: rest) = (v.symbol name).1 :: (v.symbol name).2.wordOf rest := rfl

theorem addAll_append (v : Vocabulary) (first second : List String) :
    v.addAll (first ++ second) = (v.addAll first).addAll second := by
  induction first generalizing v with
  | nil => rfl
  | cons name rest ih => exact ih (v.symbol name).2

theorem wordOf_append (v : Vocabulary) (first second : List String) :
    v.wordOf (first ++ second) = v.wordOf first ++ (v.addAll first).wordOf second := by
  induction first generalizing v with
  | nil => rfl
  | cons name rest ih =>
    rw [List.cons_append, wordOf_cons, ih, wordOf_cons, addAll_cons, List.cons_append]

@[simp]
theorem names_wordOf (v : Vocabulary) (names : List String) : (v.wordOf names).names = names := by
  induction names generalizing v with
  | nil => rfl
  | cons name rest ih =>
    simp only [Word.names] at ih ⊢
    rw [wordOf_cons, List.map_cons, ih, symbol_name]

theorem extends_addAll (v : Vocabulary) (names : List String) : v.Extends (v.addAll names) := by
  induction names generalizing v with
  | nil => exact .refl v
  | cons name rest ih => exact (v.extends_symbol name).trans (ih _)

theorem Sound.addAll {v : Vocabulary} (sound : v.Sound) {names : List String}
    (valid : ∀ name ∈ names, Name.IsValid name) : (v.addAll names).Sound := by
  induction names generalizing v with
  | nil => exact sound
  | cons name rest ih =>
    exact ih (sound.symbol (valid name (by simp)))
      (fun other member => valid other (by simp [member]))

/-- Entering some names adds those that are new, in the order of their first
occurrence. -/
theorem names_addAll (v : Vocabulary) (names : List String) :
    (v.addAll names).names =
      v.names ++ (names.removeAll v.names).eraseDups := by
  induction names generalizing v with
  | nil => simp [List.removeAll]
  | cons name rest ih =>
    rw [addAll_cons, ih, names_symbol]
    generalize v.names = old
    by_cases seen : name ∈ old
    · rw [if_pos seen, List.cons_removeAll, if_neg (by simp [seen])]
    · have later : rest.removeAll (old ++ [name]) =
          (rest.removeAll old).filter fun other => !other == name := by
        simp only [List.removeAll, List.filter_filter]
        apply List.filter_congr
        intro other _
        by_cases same : other = name <;> simp [same]
      rw [if_neg seen, List.cons_removeAll, if_pos (by simp [seen]), List.eraseDups_cons, later,
        List.append_assoc, List.singleton_append]

/-- The names of a vocabulary stand in the order in which they were first entered. -/
theorem names_addAll_empty (names : List String) :
    (empty.addAll names).names = names.eraseDups := by
  have allNew : names.removeAll empty.names = names :=
    List.filter_eq_self.mpr (by simp)
  rw [names_addAll, allNew]
  rfl

/-- Entering some names changes nothing exactly if all of them have been seen. -/
theorem addAll_eq_self_iff (v : Vocabulary) (names : List String) :
    v.addAll names = v ↔ ∀ name ∈ names, name ∈ v.names := by
  have byNames : v.addAll names = v ↔ (v.addAll names).names = v.names := by
    constructor
    · intro same
      rw [same]
    · exact ext_names
  have noneNew : (names.removeAll v.names).eraseDups = [] ↔
      names.removeAll v.names = [] := by
    cases names.removeAll v.names <;> simp [List.eraseDups_cons]
  rw [byNames, names_addAll, List.append_right_eq_self, noneNew]
  simp [List.removeAll]

/-- The names of symbols that are contained give the same symbols again, and nothing is
added. -/
theorem Sound.enter_names {v : Vocabulary} (sound : v.Sound) {w : Word}
    (issued : ∀ s ∈ w, v.contains s = true) : v.wordOf w.names = w ∧ v.addAll w.names = v := by
  induction w with
  | nil => exact ⟨rfl, rfl⟩
  | cons s w ih =>
    have later : ∀ s' ∈ w, v.contains s' = true :=
      fun s' member => issued s' (List.mem_cons_of_mem s member)
    obtain ⟨sameWord, sameVocabulary⟩ := ih later
    have same := sound.symbol_of_contains (issued s (by simp))
    rw [Word.names, List.map_cons, wordOf_cons, addAll_cons, same]
    exact ⟨congrArg (s :: ·) sameWord, sameVocabulary⟩

/-- Everything that entering some names gives is contained afterwards. -/
theorem contains_of_mem_wordOf {v : Vocabulary} {names : List String} {s : Symbol}
    (member : s ∈ v.wordOf names) : (v.addAll names).contains s = true := by
  induction names generalizing v with
  | nil => cases member
  | cons name rest ih =>
    rcases List.mem_cons.mp member with rfl | later
    · exact (extends_addAll _ rest).contains (contains_symbol v name)
    · exact ih later

/-- Names that are entered in an empty vocabulary are issued what it contains then, and
nothing else. -/
theorem contains_addAll_empty_iff {names : List String} (valid : ∀ name ∈ names, Name.IsValid name)
    (s : Symbol) : (empty.addAll names).contains s = true ↔ s ∈ empty.wordOf names := by
  have sound := empty_sound.addAll valid
  constructor
  · intro issued
    obtain ⟨k, -, found⟩ := (sound.contains_iff s).mp issued
    have listed : s.name ∈ names := by
      have member := mem_of_code? found
      rw [names_addAll_empty] at member
      simpa using member
    rw [← names_wordOf empty names, Word.names] at listed
    obtain ⟨other, given, same⟩ := List.mem_map.mp listed
    have first := sound.symbol_of_contains (contains_of_mem_wordOf given)
    have second := sound.symbol_of_contains issued
    rw [same, second] at first
    cases first
    exact given
  · exact contains_of_mem_wordOf

end Vocabulary

end GrowthGrammar
