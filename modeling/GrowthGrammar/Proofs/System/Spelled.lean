import GrowthGrammar.Proofs.Derivation.Relabelling
import GrowthGrammar.Proofs.Rule.RoundTrip

/-!
# Systems that are spelled alike

Codes are how a system tells symbols apart, but all that goes in and comes out is names.  So two
systems whose rules are spelled alike do the same, up to a renaming that keeps different names
different: they list rules that are spelled alike (`Closed.listing_alike`), and they derive
words that are spelled alike with the same draws (`Closed.passes_alike`).  Neither the codes nor
whatever else stands in their tables plays a part.

Both come from one fact.  The rules of the second system are those of the first one with every
symbol replaced by the one that the second system has for its new name
(`Closed.rules_eq_relabel`), and this replacement neither joins nor separates symbols
(`Closed.keepsApart`).
-/

namespace GrowthGrammar

/-! ## Symbols and their names -/

namespace Vocabulary

/-- The symbol of a name that has been seen. -/
def symbolOf (v : Vocabulary) (name : String) : Symbol := (v.symbol name).1

@[simp]
theorem symbolOf_name (v : Vocabulary) (name : String) : (v.symbolOf name).name = name :=
  v.symbol_name name

theorem Sound.symbolOf_name_of_contains {v : Vocabulary} (sound : v.Sound) {s : Symbol}
    (issued : v.contains s = true) : v.symbolOf s.name = s := by
  rw [symbolOf, sound.symbol_of_contains issued]

theorem Sound.map_symbolOf {v : Vocabulary} (sound : v.Sound) {w : Word}
    (issued : ∀ s ∈ w, v.contains s = true) : w.names.map v.symbolOf = w := by
  rw [Word.names, List.map_map]
  exact (List.map_congr_left fun s member =>
    sound.symbolOf_name_of_contains (issued s member)).trans (List.map_id w)

end Vocabulary

namespace WrittenRule

/-- The rule with every name replaced. -/
def rename (f : String → String) (written : WrittenRule) : WrittenRule where
  head := ⟨written.head.left.map f, f written.head.predecessor, written.head.right.map f⟩
  body := ⟨written.body.weight, written.body.successor.map f⟩

/-- The rule with a symbol for every name. -/
def withSymbols (symbolOf : String → Symbol) (written : WrittenRule) : Rule where
  predecessor := symbolOf written.head.predecessor
  successor := written.body.successor.map symbolOf
  left := written.head.left.map symbolOf
  right := written.head.right.map symbolOf
  weight := written.body.weight

theorem rename_id (written : WrittenRule) : written.rename id = written := by
  simp [rename]

end WrittenRule

namespace Rule

theorem relabel_eq_withSymbols (symbolOf : String → Symbol) (f : String → String) (r : Rule) :
    r.relabel (fun s => symbolOf (f s.name)) = (r.written.rename f).withSymbols symbolOf := by
  simp [relabel, WrittenRule.withSymbols, WrittenRule.rename, written, Word.names]

theorem withSymbols_written {v : Vocabulary} (sound : v.Sound) {r : Rule}
    (issued : ∀ s ∈ r.symbols, v.contains s = true) : r.written.withSymbols v.symbolOf = r := by
  have part (w : Word) (inside : ∀ s ∈ w, s ∈ r.symbols) : w.names.map v.symbolOf = w :=
    sound.map_symbolOf fun s member => issued s (inside s member)
  simp only [WrittenRule.withSymbols, written,
    sound.symbolOf_name_of_contains (issued r.predecessor (by simp [symbols])),
    part r.successor (by simp +contextual [symbols]), part r.left (by simp +contextual [symbols]),
    part r.right (by simp +contextual [symbols])]

end Rule

/-! ## Two systems with rules that are spelled alike -/

namespace System

/-- The symbol that a system has for the new name of a symbol. -/
def renamed (system : System) (f : String → String) (s : Symbol) : Symbol :=
  system.table.value.symbolOf (f s.name)

/-- The symbol is one of the first system, with a name in play for which the second one has a
symbol too. -/
structure InPlay (first second : System) (f : String → String) (N : String → Prop) (s : Symbol) :
    Prop where
  here : first.table.value.contains s = true
  named : N s.name
  there : second.table.value.contains (second.renamed f s) = true

variable {tieBreak : TieBreak} {first second : System} {rules rules' : List Rule}
  {f : String → String} {N : String → Prop}

theorem renamed_name (system : System) (s : Symbol) : (system.renamed f s).name = f s.name :=
  Vocabulary.symbolOf_name _ _

theorem names_map_renamed (system : System) (w : Word) :
    Word.names (w.map (system.renamed f)) = w.names.map f := by
  simp [Word.names, renamed_name]

/-- A renaming that keeps the names in play apart keeps their symbols apart. -/
theorem Closed.keepsApart (closed : Closed tieBreak first rules)
    (closed' : Closed tieBreak second rules')
    (apart : ∀ x y, N x → N y → f x = f y → x = y) :
    KeepsApart (second.renamed f) (InPlay first second f N) := by
  intro a b aInPlay bInPlay
  rw [Bool.eq_iff_iff, closed'.sound.same_iff aInPlay.there bInPlay.there,
    closed.sound.same_iff aInPlay.here bInPlay.here, renamed_name, renamed_name]
  exact ⟨apart _ _ aInPlay.named bInPlay.named, congrArg f⟩

theorem Knows.map_renamed {w w' : Word} (sound : second.table.value.Sound)
    (known : second.Knows w') (renamed : w'.names = w.names.map f) :
    w' = w.map (second.renamed f) := by
  rw [← sound.map_symbolOf known, renamed, Word.names, List.map_map, List.map_map]
  rfl

/-- What is spelled like the renamed rules are the rules with their symbols renamed. -/
theorem Closed.rules_eq_relabel (closed : Closed tieBreak second rules')
    (spelled : rules'.map Rule.written = rules.map fun r => r.written.rename f) :
    rules' = rules.map (Rule.relabel (second.renamed f)) := by
  let symbolOf := second.table.value.symbolOf
  calc rules' = rules'.map fun r => r.written.withSymbols symbolOf :=
        (List.map_id rules').symm.trans (List.map_congr_left fun r member =>
          (Rule.withSymbols_written closed.sound (closed.known r member)).symm)
    _ = (rules'.map Rule.written).map (WrittenRule.withSymbols symbolOf) := by
        rw [List.map_map]; rfl
    _ = rules.map (Rule.relabel (second.renamed f)) := by
        rw [spelled, List.map_map]
        exact List.map_congr_left fun r _ => (r.relabel_eq_withSymbols symbolOf f).symm

section Spelled

variable (closed : Closed tieBreak first rules) (closed' : Closed tieBreak second rules')
  (spelled : rules'.map Rule.written = rules.map fun r => r.written.rename f)
  (apart : ∀ x y, N x → N y → f x = f y → x = y)
  (ruleNames : ∀ r ∈ rules, ∀ s ∈ r.symbols, N s.name)

include closed closed' spelled ruleNames

theorem Closed.within_inPlay : ∀ r ∈ rules, r.Within (InPlay first second f N) := by
  intro r member s inside
  refine ⟨closed.known r member s inside, ruleNames r member s inside, ?_⟩
  have image : r.relabel (second.renamed f) ∈ rules' :=
    closed'.rules_eq_relabel spelled ▸ List.mem_map_of_mem member
  refine closed'.known _ image _ ?_
  rw [Rule.symbols_relabel]
  exact List.mem_map_of_mem inside

include apart

/-- The systems list rules that are spelled alike. -/
theorem Closed.listing_alike :
    (second.store.guarded.value.toList.map Rule.written) =
      first.store.guarded.value.toList.map fun r => r.written.rename f := by
  have within := closed.within_inPlay closed' spelled ruleNames
  have keeps := closed.keepsApart closed' apart
  rw [closed.value_eq, closed'.value_eq, closed'.rules_eq_relabel spelled,
    RuleSet.toList_ofList_relabel keeps fun r member => within r member _ (by simp [Rule.symbols]),
    List.map_map]
  refine List.map_congr_left fun r _ => ?_
  simp [Rule.written, WrittenRule.rename, Rule.relabel, names_map_renamed, renamed_name]

/-- Two systems whose rules are spelled alike, up to a renaming that keeps the names in play
apart, derive words that are spelled alike, with the same draws. -/
theorem Closed.passes_alike {w w' : Word} (known : first.Knows w) (known' : second.Knows w')
    (wordNames : ∀ s ∈ w, N s.name) (renamed : w'.names = w.names.map f) (n : Nat) :
    (Derivation.passes first.store.frozen.rulebook n w).Alike (Derivation.LacksAlike f)
      (fun v v' => v'.names = v.names.map f)
      (Derivation.passes second.store.frozen.rulebook n w') := by
  obtain rfl := Knows.map_renamed closed'.sound known' renamed
  have wWithin : ∀ s ∈ w, InPlay first second f N s := fun s inside =>
    ⟨known s inside, wordNames s inside, known' _ (List.mem_map_of_mem inside)⟩
  have holds' := closed'.frozen_holds
  rw [closed'.rules_eq_relabel spelled] at holds'
  refine (Derivation.passes_alike_of_keepsApart closed.frozen_holds holds'
    (closed.keepsApart closed' apart) (closed.within_inPlay closed' spelled ruleNames)
    (fun s _ => second.renamed_name s) n wWithin).mono ?_
  rintro u _ ⟨rfl, -⟩
  exact names_map_renamed second u

end Spelled

end System

end GrowthGrammar
