import GrowthGrammar.Rule.Candidates

/-!
# Candidates and windows

Among the rules that fit somewhere, the candidates are those that no other one
exceeds in specificity (`Rule.candidates_eq`).  A rule looks no further to the left
and to the right than its contexts are long, so it fits between two words exactly
when it fits between the parts of them that a wide enough window shows
(`Rule.fits_take`), and the window of some rules is wide enough for each of them.
-/

namespace GrowthGrammar

theorem Symbol.same_iff {a b : Symbol} : a.same b = true ↔ a.code = b.code := by
  simp [Symbol.same]

theorem Symbol.same_comm (a b : Symbol) : a.same b = b.same a := by
  simp [Symbol.same, BEq.comm]

namespace Rule

/-! ## Windows -/

theorem isEndOf_reverse (v before : Word) :
    Word.isEndOf v before.reverse = (Word.codes v).reverse.isPrefixOf (Word.codes before) := by
  simp [Word.isEndOf, List.isSuffixOf, Word.codes]

/-- A list as short as a window begins what the window shows if it begins the whole. -/
theorem isPrefixOf_take {codes whole : List Int} {size : Nat} (short : codes.length ≤ size) :
    codes.isPrefixOf (whole.take size) = codes.isPrefixOf whole := by
  rw [Bool.eq_iff_iff, List.isPrefixOf_iff_prefix, List.isPrefixOf_iff_prefix,
    List.prefix_take_iff]
  exact and_iff_left short

/-- A rule sees no more of its surroundings than a window as wide as its contexts. -/
theorem fits_take {r : Rule} {left right : Nat} (leftShort : r.left.length ≤ left)
    (rightShort : r.right.length ≤ right) (before after : Word) :
    r.fits (before.take left).reverse (after.take right) = r.fits before.reverse after := by
  have atLeft : (Word.codes r.left).reverse.length ≤ left := by simpa [Word.codes] using leftShort
  have atRight : (Word.codes r.right).length ≤ right := by simpa [Word.codes] using rightShort
  simp only [fits, isEndOf_reverse, Word.isStartOf]
  rw [show Word.codes (before.take left) = (Word.codes before).take left from List.map_take,
    show Word.codes (after.take right) = (Word.codes after).take right from List.map_take,
    isPrefixOf_take atLeft, isPrefixOf_take atRight]

/-! ## The largest of some numbers -/

theorem foldl_max_le_iff {α : Type} (size : α → Nat) (items : List α) (start bound : Nat) :
    items.foldl (fun most item => max most (size item)) start ≤ bound ↔
      start ≤ bound ∧ ∀ item ∈ items, size item ≤ bound := by
  induction items generalizing start with
  | nil => simp
  | cons item rest ih =>
    rw [List.foldl_cons, ih, Nat.max_le, List.forall_mem_cons, and_assoc]

theorem specificity_le_top {rules : List Rule} {r : Rule} (member : r ∈ rules) :
    r.specificity ≤ topSpecificity rules :=
  ((foldl_max_le_iff specificity rules 0 _).mp (Nat.le_refl _)).2 r member

theorem top_le_iff (rules : List Rule) (bound : Nat) :
    topSpecificity rules ≤ bound ↔ ∀ r ∈ rules, r.specificity ≤ bound := by
  rw [topSpecificity, foldl_max_le_iff]
  simp

/-- The window of some rules is wide enough for each of them. -/
theorem le_windowOf {rules : List Rule} {r : Rule} (member : r ∈ rules) :
    r.left.length ≤ (windowOf rules).1 ∧ r.right.length ≤ (windowOf rules).2 :=
  ⟨((foldl_max_le_iff (·.left.length) rules 0 _).mp (Nat.le_refl _)).2 r member,
    ((foldl_max_le_iff (·.right.length) rules 0 _).mp (Nat.le_refl _)).2 r member⟩

/-! ## Candidates -/

theorem mem_of_mem_choose {α : Type} {tieBreak : TieBreak} {alternatives : List α} {a : α}
    (member : a ∈ tieBreak.choose alternatives) : a ∈ alternatives := by
  cases tieBreak with
  | pool => exact member
  | latest => exact List.mem_of_getLast? (Option.mem_toList.mp member)
  | earliest => exact List.mem_of_mem_head? (Option.mem_toList.mp member)

/-- No rule of the list that passes a test has longer contexts than this one. -/
def isUnsurpassed (test : Rule → Bool) (rules : List Rule) (r : Rule) : Bool :=
  rules.all fun q => !test q || decide (q.specificity ≤ r.specificity)

theorem isUnsurpassed_iff (test : Rule → Bool) (rules : List Rule) (r : Rule) :
    isUnsurpassed test rules r = true ↔
      ∀ q ∈ rules, test q = true → q.specificity ≤ r.specificity := by
  simp only [isUnsurpassed, List.all_eq_true, Bool.or_eq_true, Bool.not_eq_true', decide_eq_true_eq]
  refine forall₂_congr fun q _ => ?_
  cases test q <;> simp

/-- Of the rules that pass a test, those of the largest specificity are those that no
other one exceeds. -/
theorem specificity_eq_top_iff {test : Rule → Bool} {rules : List Rule} {r : Rule}
    (member : r ∈ rules) (passes : test r = true) :
    r.specificity = topSpecificity (rules.filter test) ↔ isUnsurpassed test rules r = true := by
  have inside : r ∈ rules.filter test := List.mem_filter.mpr ⟨member, passes⟩
  have below := specificity_le_top inside
  rw [isUnsurpassed_iff]
  constructor
  · intro atTop q here passing
    rw [atTop]
    exact specificity_le_top (List.mem_filter.mpr ⟨here, passing⟩)
  · intro unsurpassed
    refine Nat.le_antisymm below ((top_le_iff _ _).mpr fun q here => ?_)
    obtain ⟨listed, passing⟩ := List.mem_filter.mp here
    exact unsurpassed q listed passing

/-- The candidates are the fitting rules that no fitting rule exceeds. -/
theorem candidates_eq (tieBreak : TieBreak) (rules : List Rule) (before after : Word) :
    candidates tieBreak rules before after =
      tieBreak.choose
        (rules.filter fun r =>
          r.fits before after && isUnsurpassed (·.fits before after) rules r) := by
  simp only [candidates, List.filter_filter]
  congr 1
  apply List.filter_congr
  intro r member
  by_cases fitting : r.fits before after = true
  · rw [Bool.eq_iff_iff]
    simp only [fitting, Bool.and_true, Bool.true_and, beq_iff_eq]
    exact specificity_eq_top_iff member fitting
  · simp [fitting]

/-! ## The best rules at a position -/

/-- The rules of a list that apply at a position of a word and that no other rule
applying there exceeds in specificity, in the order of the list. -/
def bestAt (rules : List Rule) (w : Word) (position : Nat) : List Rule :=
  rules.filter fun r =>
    r.appliesAt w position && isUnsurpassed (·.appliesAt w position) rules r

theorem mem_of_mem_bestAt {rules : List Rule} {w : Word} {position : Nat} {r : Rule}
    (member : r ∈ bestAt rules w position) : r ∈ rules :=
  (List.mem_filter.mp member).1

/-- Nowhere in the word are two rules of the list among the best. -/
def Undisputed (rules : List Rule) (w : Word) : Prop :=
  ∀ position, (bestAt rules w position).length ≤ 1

theorem appliesAt_eq {w : Word} {position : Nat} {s : Symbol} (here : w[position]? = some s)
    (r : Rule) :
    r.appliesAt w position =
      (r.predecessor.same s && r.fits (w.take position) (w.drop (position + 1))) := by
  have notNegative : ¬ (position : Int) < 0 := by omega
  simp [appliesAt, notNegative, here, Symbol.same_comm]

end Rule

end GrowthGrammar
