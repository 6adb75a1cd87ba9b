import GrowthGrammar.Proofs.Derivation.Generations
import GrowthGrammar.Proofs.Step.Alike

/-!
# Passes over relabelled words

A derivation asks two things about symbols: whether two of them are the same, and what the
weights of rules are.  So replacing every symbol of the rules and of the word by another one
makes no difference, as long as no two symbols that were different become the same and none
that were the same become different (`KeepsApart`).

Everything a pass looks at is carried along: where a rule applies (`appliesAt_relabel`), which
rules are best at a position (`bestAt_relabel`), and what a symbol becomes with which draws
(`imageOf_alike`).  So is the order in which a rule set lists its rules
(`toList_ofList_relabel`).  Main statement: any number of passes over the relabelled word
ends with the relabelled word, or with the same kind of lack of weight, after the same draws
(`passes_alike_of_keepsApart`).
-/

namespace GrowthGrammar

/-- Relabelling neither joins nor separates symbols of the given kind. -/
def KeepsApart (m : Symbol → Symbol) (P : Symbol → Prop) : Prop :=
  ∀ a b, P a → P b → (m a).same (m b) = a.same b

/-- The rule with every symbol relabelled. -/
def Rule.relabel (m : Symbol → Symbol) (r : Rule) : Rule where
  predecessor := m r.predecessor
  successor := r.successor.map m
  left := r.left.map m
  right := r.right.map m
  weight := r.weight

theorem Rule.symbols_relabel (m : Symbol → Symbol) (r : Rule) :
    (r.relabel m).symbols = r.symbols.map m := by
  simp [symbols, relabel]

/-- All symbols of the rule are of the given kind. -/
def Rule.Within (P : Symbol → Prop) (r : Rule) : Prop := ∀ s ∈ r.symbols, P s

theorem Rule.Within.successor {P : Symbol → Prop} {r : Rule} (within : r.Within P) :
    ∀ s ∈ r.successor, P s :=
  fun s member => within s (by simp [Rule.symbols, member])

variable {m : Symbol → Symbol} {P : Symbol → Prop} {rules : List Rule} {w : Word}

/-! ## Where a rule applies -/

theorem Word.isStartOf_cons (a b : Symbol) (v w : Word) :
    Word.isStartOf (a :: v) (b :: w) = (a.same b && Word.isStartOf v w) := rfl

/-- Relabelling keeps how a word begins. -/
theorem KeepsApart.isStartOf (apart : KeepsApart m P) {v w : Word} (vWithin : ∀ s ∈ v, P s)
    (wWithin : ∀ s ∈ w, P s) : Word.isStartOf (v.map m) (w.map m) = Word.isStartOf v w := by
  induction v generalizing w with
  | nil => rfl
  | cons a v ih =>
    cases w with
    | nil => rfl
    | cons b w =>
      obtain ⟨aWithin, vWithin⟩ := List.forall_mem_cons.mp vWithin
      obtain ⟨bWithin, wWithin⟩ := List.forall_mem_cons.mp wWithin
      rw [List.map_cons, List.map_cons, Word.isStartOf_cons, Word.isStartOf_cons,
        apart a b aWithin bWithin, ih vWithin wWithin]

theorem Word.isEndOf_eq (v w : Word) : Word.isEndOf v w = Word.isStartOf v.reverse w.reverse := by
  simp [Word.isEndOf, Word.isStartOf, List.isSuffixOf, Word.codes]

/-- Relabelling keeps how a word ends. -/
theorem KeepsApart.isEndOf (apart : KeepsApart m P) {v w : Word} (vWithin : ∀ s ∈ v, P s)
    (wWithin : ∀ s ∈ w, P s) : Word.isEndOf (v.map m) (w.map m) = Word.isEndOf v w := by
  rw [Word.isEndOf_eq, Word.isEndOf_eq, ← List.map_reverse, ← List.map_reverse]
  exact apart.isStartOf (by simpa using vWithin) (by simpa using wWithin)

namespace Rule

theorem appliesAt_relabel (apart : KeepsApart m P) {r : Rule} (within : r.Within P)
    (wWithin : ∀ s ∈ w, P s) (position : Nat) :
    (r.relabel m).appliesAt (w.map m) position = r.appliesAt w position := by
  cases here : w[position]? with
  | none =>
    have noSuch : (w.map m)[position]? = none := by rw [List.getElem?_map, here]; rfl
    have notNegative : ¬ (position : Int) < 0 := by omega
    simp only [appliesAt, if_neg notNegative, Int.toNat_natCast, noSuch, here]
  | some s =>
    have thereToo : (w.map m)[position]? = some (m s) := by rw [List.getElem?_map, here]; rfl
    have known : P s := wWithin s (List.mem_of_getElem? here)
    have left : ∀ a ∈ r.left, P a := fun a member => within a (by simp [symbols, member])
    have right : ∀ a ∈ r.right, P a := fun a member => within a (by simp [symbols, member])
    have predecessor : P r.predecessor := within _ (by simp [symbols])
    rw [appliesAt_eq here, appliesAt_eq thereToo, fits, fits, ← List.map_take, ← List.map_drop]
    show ((m r.predecessor).same (m s) && (Word.isEndOf (r.left.map m) _ &&
      Word.isStartOf (r.right.map m) _)) = _
    rw [apart _ _ predecessor known,
      apart.isEndOf left fun a member => wWithin a (List.mem_of_mem_take member),
      apart.isStartOf right fun a member => wWithin a (List.mem_of_mem_drop member)]

theorem specificity_relabel (r : Rule) : (r.relabel m).specificity = r.specificity := by
  simp [specificity, relabel]

/-- The best rules at a position are the relabelled best rules there. -/
theorem bestAt_relabel (apart : KeepsApart m P) (within : ∀ r ∈ rules, r.Within P)
    (wWithin : ∀ s ∈ w, P s) (position : Nat) :
    bestAt (rules.map (relabel m)) (w.map m) position =
      (bestAt rules w position).map (relabel m) := by
  have applies : ∀ r ∈ rules, (r.relabel m).appliesAt (w.map m) position = r.appliesAt w position :=
    fun r member => appliesAt_relabel apart (within r member) wWithin position
  rw [bestAt, bestAt, List.filter_map]
  congr 1
  apply List.filter_congr
  intro r member
  show ((r.relabel m).appliesAt (w.map m) position && _) = _
  rw [applies r member]
  congr 1
  rw [Bool.eq_iff_iff, isUnsurpassed_iff, isUnsurpassed_iff, List.forall_mem_map]
  refine forall₂_congr fun q listed => ?_
  rw [applies q listed, specificity_relabel, specificity_relabel]

end Rule

/-! ## Listing rules -/

/-- The group with every symbol relabelled. -/
def RuleGroup.relabel (m : Symbol → Symbol) (g : RuleGroup) : RuleGroup where
  predecessor := m g.predecessor
  rules := g.rules.map (Rule.relabel m)
  leftWindow := g.leftWindow
  rightWindow := g.rightWindow

namespace RuleSet

theorem addTo_relabel (apart : KeepsApart m P) {r : Rule} {groups : List RuleGroup}
    (within : ∀ g ∈ groups, P g.predecessor) (new : P r.predecessor) :
    addTo (r.relabel m) (groups.map (RuleGroup.relabel m)) =
      (addTo r groups).map (RuleGroup.relabel m) := by
  induction groups with
  | nil => simp [addTo, RuleGroup.single, RuleGroup.relabel, Rule.relabel]
  | cons g rest ih =>
    obtain ⟨here, later⟩ := List.forall_mem_cons.mp within
    have same : (m g.predecessor).same (m r.predecessor) = g.predecessor.same r.predecessor :=
      apart _ _ here new
    rw [List.map_cons, addTo, addTo, ih later]
    show (if (m g.predecessor).same (m r.predecessor) = true then _ else _) = _
    rw [same]
    split
    · simp [RuleGroup.add, RuleGroup.relabel, Rule.relabel]
    · rfl

/-- Relabelled rules are grouped and listed like the rules. -/
theorem toList_ofList_relabel (apart : KeepsApart m P) (within : ∀ r ∈ rules, P r.predecessor) :
    (ofList (rules.map (Rule.relabel m))).toList = (ofList rules).toList.map (Rule.relabel m) := by
  have groups (start : RuleSet) (startWithin : ∀ g ∈ start.groups, P g.predecessor) :
      ((rules.map (Rule.relabel m)).foldl add ⟨start.groups.map (RuleGroup.relabel m)⟩).groups =
        (rules.foldl add start).groups.map (RuleGroup.relabel m) := by
    induction rules generalizing start with
    | nil => rfl
    | cons r rest ih =>
      obtain ⟨here, later⟩ := List.forall_mem_cons.mp within
      rw [List.map_cons, List.foldl_cons, List.foldl_cons,
        ← ih later (start.add r) (forall_mem_addTo startWithin here)]
      congr 2
      exact congrArg RuleSet.mk (addTo_relabel apart startWithin here)
  have listed := groups empty (by simp [empty])
  rw [toList, toList, ofList, ofList, List.map_flatMap]
  show List.flatMap _ (List.foldl add ⟨empty.groups.map (RuleGroup.relabel m)⟩ _).groups = _
  rw [listed, List.flatMap_map]
  rfl

end RuleSet

theorem TieBreak.choose_map {α β : Type} (t : TieBreak) (f : α → β) (alternatives : List α) :
    t.choose (alternatives.map f) = (t.choose alternatives).map f := by
  cases t with
  | pool => rfl
  | latest =>
    rw [choose, choose, List.getLast?_map]
    cases alternatives.getLast? <;> rfl
  | earliest => cases alternatives <;> rfl

namespace Derivation

open GrowthGrammar.Random (Generator)

/-! ## What a symbol becomes -/

/-- Both errors are a lack of weight among alternatives for a name, of which the second one is
the image of the first. -/
def LacksAlike (f : String → String) (e e' : Error) : Prop :=
  ∃ name, e = .settings (.noWeight name) ∧ e' = .settings (.noWeight (f name))

/-- The second word is the first one relabelled, and the first is of the given kind. -/
def RelabelledWithin (m : Symbol → Symbol) (P : Symbol → Prop) (v v' : Word) : Prop :=
  v' = v.map m ∧ ∀ s ∈ v, P s

variable {f : String → String}

theorem chooseRule_alike {first : Rule} {rest : List Rule}
    (named : (m first.predecessor).name = f first.predecessor.name) :
    (chooseRule first rest).Alike (LacksAlike f)
      (fun r r' => r ∈ first :: rest ∧ r' = r.relabel m)
      (chooseRule (first.relabel m) (rest.map (Rule.relabel m))) := by
  intro g
  have weights : ((first.relabel m :: rest.map (Rule.relabel m)).map Rule.weight) =
      (first :: rest).map Rule.weight := by
    simp [Rule.relabel]
  have chosen (i : Nat) : (first.relabel m :: rest.map (Rule.relabel m)).getD i (first.relabel m) =
      ((first :: rest).getD i first).relabel m := by
    rw [← List.map_cons, List.getD_eq_getElem?_getD, List.getD_eq_getElem?_getD, List.getElem?_map]
    cases (first :: rest)[i]? <;> rfl
  have run := chooseRule_runFrom first rest g
  rw [chooseRule_runFrom, chooseRule_runFrom, weights]
  split
  case isTrue none => exact ⟨.error ⟨_, rfl, by rw [← named]; rfl⟩, rfl⟩
  case isFalse some =>
    rw [if_neg some] at run
    exact ⟨.ok ⟨mem_of_chooseRule run, chosen _⟩, rfl⟩

/-- What a relabelled symbol becomes under relabelled candidates. -/
theorem imageOf_alike {s : Symbol} {candidates : List Rule} (known : P s)
    (within : ∀ r ∈ candidates, r.Within P)
    (named : ∀ r ∈ candidates, (m r.predecessor).name = f r.predecessor.name) :
    (imageOf s candidates).Alike (LacksAlike f) (RelabelledWithin m P)
      (imageOf (m s) (candidates.map (Rule.relabel m))) := by
  match candidates with
  | [] => exact .pure ⟨rfl, by simpa using known⟩
  | [r] => exact .pure ⟨rfl, (within r (by simp)).successor⟩
  | first :: second :: rest =>
    refine .bind (chooseRule_alike (named first (by simp))) ?_
    rintro r _ ⟨member, rfl⟩
    exact .pure ⟨rfl, (within r member).successor⟩

/-! ## Passes -/

theorem flatten_relabelled {images images' : List Word}
    (related : List.Forall₂ (RelabelledWithin m P) images images') :
    RelabelledWithin m P images.flatten images'.flatten := by
  induction related with
  | nil => exact ⟨rfl, by simp⟩
  | cons here _ ih =>
    obtain ⟨rfl, within⟩ := here
    obtain ⟨same, later⟩ := ih
    exact ⟨by simp [same], List.forall_mem_append.mpr ⟨within, later⟩⟩

variable {tieBreak : TieBreak} {book book' : Rulebook}

theorem wholePass_alike (apart : KeepsApart m P) (within : ∀ r ∈ rules, r.Within P)
    (named : ∀ s, P s → (m s).name = f s.name) (wWithin : ∀ s ∈ w, P s) :
    (wholePass tieBreak rules w).Alike (LacksAlike f) (RelabelledWithin m P)
      (wholePass tieBreak (rules.map (Rule.relabel m)) (w.map m)) := by
  have places : (w.map m).zipIdx = w.zipIdx.map (Prod.map m id) := List.zipIdx_map
  rw [wholePass, wholePass, places]
  refine .bind (.mapM ?_) fun images images' related => .pure (flatten_relabelled related)
  rintro ⟨s, position⟩ member
  simp only [Rule.bestAt_relabel apart within wWithin, TieBreak.choose_map]
  have listed : ∀ r ∈ tieBreak.choose (Rule.bestAt rules w position), r ∈ rules :=
    fun r chosen => Rule.mem_of_mem_bestAt (Rule.mem_of_mem_choose chosen)
  refine imageOf_alike ?_ (fun r chosen => within r (listed r chosen)) fun r chosen => ?_
  · exact wWithin s (List.fst_mem_of_mem_zipIdx member)
  · exact named _ (within r (listed r chosen) _ (by simp [Rule.symbols]))

/-- Passes with relabelled rules over the relabelled word run like the passes with the rules
over the word. -/
theorem passes_alike_of_keepsApart (holds : book.Holds tieBreak rules)
    (holds' : book'.Holds tieBreak (rules.map (Rule.relabel m))) (apart : KeepsApart m P)
    (within : ∀ r ∈ rules, r.Within P) (named : ∀ s, P s → (m s).name = f s.name) (n : Nat)
    (wWithin : ∀ s ∈ w, P s) :
    (passes book n w).Alike (LacksAlike f) (RelabelledWithin m P) (passes book' n (w.map m)) := by
  induction n generalizing w with
  | zero => exact .pure ⟨rfl, wWithin⟩
  | succ n ih =>
    rw [passes_succ, passes_succ, pass_eq_wholePass holds, pass_eq_wholePass holds']
    refine .bind (wholePass_alike apart within named wWithin) ?_
    rintro v _ ⟨rfl, vWithin⟩
    exact ih vWithin

end Derivation

end GrowthGrammar
