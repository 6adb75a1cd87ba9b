import Mathlib
import GrowthGrammar.Plane.Path

/-!
# Points in the order they are first met

`Path.distinctFrom` goes through a list and keeps what it has not seen.  Its test for
equality need not be the identity: a double that is no number is not equal to itself, and
the two zeros are equal.  Where the test tells the members of a list apart (`TellsApart`),
the result has the members of the list without repetitions, in their order.

Dropping repetitions before a map that respects the test changes nothing behind it
(`distinctFrom_map_distinctFrom`).
-/

namespace GrowthGrammar.Path

variable {α β : Type} [BEq α] [BEq β]

/-- On the members of a list the test for equality is the identity. -/
def TellsApart (xs : List α) : Prop := ∀ a ∈ xs, ∀ b ∈ xs, (a == b) = true ↔ a = b

namespace TellsApart

variable {xs ys : List α} {x : α}

theorem mono (apart : TellsApart ys) (sub : xs ⊆ ys) : TellsApart xs :=
  fun a inA b inB => apart a (sub inA) b (sub inB)

theorem contains_iff (apart : TellsApart (x :: xs)) : xs.contains x = true ↔ x ∈ xs := by
  rw [List.contains_iff_exists_mem_beq]
  constructor
  · rintro ⟨y, member, equal⟩
    rwa [(apart x List.mem_cons_self y (List.mem_cons_of_mem x member)).mp equal]
  · intro member
    exact ⟨x, member, (apart x List.mem_cons_self x List.mem_cons_self).mpr rfl⟩

end TellsApart

section

variable {seen xs : List α}

theorem mem_distinctFrom (apart : TellsApart (seen ++ xs)) {x : α} :
    x ∈ distinctFrom seen xs ↔ x ∈ xs ∧ x ∉ seen := by
  induction xs generalizing seen with
  | nil => simp [distinctFrom]
  | cons y rest ih =>
    have seenIff : seen.contains y = true ↔ y ∈ seen :=
      (apart.mono (List.cons_subset.mpr ⟨by simp, by simp⟩)).contains_iff
    rw [distinctFrom]
    by_cases known : y ∈ seen
    · rw [if_pos (seenIff.mpr known), ih (apart.mono (by simp))]
      constructor
      · exact fun ⟨member, fresh⟩ => ⟨List.mem_cons_of_mem y member, fresh⟩
      · rintro ⟨member, fresh⟩
        rcases List.mem_cons.mp member with rfl | member
        · exact absurd known fresh
        · exact ⟨member, fresh⟩
    · rw [if_neg (mt seenIff.mp known), List.mem_cons, List.mem_cons, ih (apart.mono (by simp))]
      rw [List.mem_cons]
      constructor
      · rintro (rfl | ⟨member, fresh⟩)
        · exact ⟨.inl rfl, known⟩
        · exact ⟨.inr member, fun inSeen => fresh (.inr inSeen)⟩
      · rintro ⟨rfl | member, fresh⟩
        · exact .inl rfl
        · by_cases same : x = y
          · exact .inl same
          · exact .inr ⟨member, not_or.mpr ⟨same, fresh⟩⟩

theorem nodup_distinctFrom (apart : TellsApart (seen ++ xs)) : (distinctFrom seen xs).Nodup := by
  induction xs generalizing seen with
  | nil => exact List.nodup_nil
  | cons y rest ih =>
    rw [distinctFrom]
    split
    · exact ih (apart.mono (by simp))
    · have next : TellsApart (y :: seen ++ rest) := apart.mono (by simp)
      rw [List.nodup_cons]
      refine ⟨fun again => ?_, ih next⟩
      obtain ⟨-, fresh⟩ := (mem_distinctFrom next).mp again
      exact fresh List.mem_cons_self

theorem distinctFrom_sublist (seen xs : List α) : (distinctFrom seen xs).Sublist xs := by
  induction xs generalizing seen with
  | nil => exact .slnil
  | cons y rest ih =>
    rw [distinctFrom]
    split
    · exact (ih seen).cons y
    · exact (ih (y :: seen)).cons_cons y

/-- More members are added at the end. -/
theorem distinctFrom_prefix_append (seen xs ys : List α) :
    distinctFrom seen xs <+: distinctFrom seen (xs ++ ys) := by
  induction xs generalizing seen with
  | nil => exact List.nil_prefix
  | cons x rest ih =>
    rw [List.cons_append, distinctFrom, distinctFrom]
    split
    · exact ih seen
    · exact (List.prefix_cons_inj x).mpr (ih (x :: seen))

/-- One more member is dropped if it is known. -/
theorem distinctFrom_append_known {x : α} (apart : TellsApart (seen ++ xs ++ [x]))
    (known : x ∈ seen ++ xs) : distinctFrom seen (xs ++ [x]) = distinctFrom seen xs := by
  induction xs generalizing seen with
  | nil =>
    have seenIff : seen.contains x = true ↔ x ∈ seen :=
      (apart.mono (List.cons_subset.mpr ⟨by simp, by simp⟩)).contains_iff
    simp only [List.nil_append, distinctFrom]
    exact if_pos (seenIff.mpr (by simpa using known))
  | cons y rest ih =>
    have seenIff : seen.contains y = true ↔ y ∈ seen :=
      (apart.mono (List.cons_subset.mpr ⟨by simp, by simp⟩)).contains_iff
    rw [List.cons_append, distinctFrom, distinctFrom]
    by_cases old : y ∈ seen
    · rw [if_pos (seenIff.mpr old), if_pos (seenIff.mpr old)]
      refine ih (apart.mono (by simp)) ?_
      rcases List.mem_append.mp known with inSeen | inRest
      · exact List.mem_append_left rest inSeen
      · rcases List.mem_cons.mp inRest with rfl | inRest
        · exact List.mem_append_left rest old
        · exact List.mem_append_right seen inRest
    · rw [if_neg (mt seenIff.mp old), if_neg (mt seenIff.mp old), ih (apart.mono (by simp))]
      exact List.perm_middle.symm.mem_iff.mpr known

/-- One more member is added at the end if it is new. -/
theorem distinctFrom_append_new {x : α} (apart : TellsApart (seen ++ xs ++ [x]))
    (new : x ∉ seen ++ xs) : distinctFrom seen (xs ++ [x]) = distinctFrom seen xs ++ [x] := by
  induction xs generalizing seen with
  | nil =>
    have seenIff : seen.contains x = true ↔ x ∈ seen :=
      (apart.mono (List.cons_subset.mpr ⟨by simp, by simp⟩)).contains_iff
    simp only [List.nil_append, distinctFrom]
    exact if_neg (mt seenIff.mp (by simpa using new))
  | cons y rest ih =>
    rw [List.cons_append, distinctFrom, distinctFrom]
    split
    · refine ih (apart.mono (by simp)) (fun known => new ?_)
      simp only [List.mem_append, List.mem_cons] at known ⊢
      exact known.imp_right .inr
    · rw [ih (apart.mono (by simp)) fun known => new (List.perm_middle.mem_iff.mpr known)]
      rfl

end

/-- Members that the map takes to something already met do not count behind the map. -/
theorem distinctFrom_map_distinctFrom {f : α → β} {seen xs : List α} {met : List β}
    (apart : TellsApart (met ++ xs.map f)) (known : ∀ a ∈ seen, f a ∈ met)
    (respects : ∀ a ∈ seen ++ xs, ∀ b, (b == a) = true → f b = f a) :
    distinctFrom met ((distinctFrom seen xs).map f) = distinctFrom met (xs.map f) := by
  induction xs generalizing seen met with
  | nil => rfl
  | cons x rest ih =>
    have metIff : met.contains (f x) = true ↔ f x ∈ met :=
      (apart.mono (List.cons_subset.mpr ⟨by simp, by simp⟩)).contains_iff
    rw [distinctFrom]
    split
    case isTrue old =>
      obtain ⟨a, member, equal⟩ := List.contains_iff_exists_mem_beq.mp old
      have inMet : f x ∈ met := by
        rw [respects a (List.mem_append_left _ member) x equal]
        exact known a member
      rw [List.map_cons, distinctFrom, if_pos (metIff.mpr inMet)]
      refine ih (apart.mono (by simp)) known fun a member => respects a ?_
      exact ((List.sublist_cons_self x rest).append_left seen).subset member
    case isFalse new =>
      have later : ∀ a ∈ x :: seen ++ rest, ∀ b, (b == a) = true → f b = f a :=
        fun a member => respects a (List.perm_middle.mem_iff.mpr member)
      rw [List.map_cons, List.map_cons, distinctFrom, distinctFrom]
      by_cases inMet : f x ∈ met
      · rw [if_pos (metIff.mpr inMet), if_pos (metIff.mpr inMet)]
        exact ih (apart.mono (by simp)) (List.forall_mem_cons.mpr ⟨inMet, known⟩) later
      · rw [if_neg (mt metIff.mp inMet), if_neg (mt metIff.mp inMet)]
        congr 1
        refine ih (apart.mono (by simp)) (List.forall_mem_cons.mpr ⟨by simp, ?_⟩) later
        exact fun a member => List.mem_cons_of_mem _ (known a member)

end GrowthGrammar.Path
