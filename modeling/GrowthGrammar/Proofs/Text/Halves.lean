import GrowthGrammar.Proofs.Text.Tokens
import GrowthGrammar.Text.Halves
import GrowthGrammar.Text.Lines

/-!
# Texts without halves

A text without halves is made of characters, and only the mark is kept as two of them
(`Text.IsWhole`).  So is every text that comes from characters (`isWhole_ofCharacters`), and it
stays so when it is cut: a mark next to a cut would have its other mark on the same side, because
nothing is cut at marks (`IsWhole.cut`).

Main statement: whole texts have no half (`IsWhole.hasHalf_eq_false`), and the lines and the tokens
of a whole text are whole.
-/

namespace GrowthGrammar.Text

/-- The text is made of characters, the mark being kept as two marks. -/
inductive IsWhole : List Char → Prop
  | nil : IsWhole []
  | plain {c : Char} {cs : List Char} : c ≠ mark → IsWhole cs → IsWhole (c :: cs)
  | marks {cs : List Char} : IsWhole cs → IsWhole (mark :: mark :: cs)

variable {c : Char} {cs ds : List Char}

/-! ## Code points -/

theorem codePoints_cons_of_ne (plain : c ≠ mark) (cs : List Char) :
    codePoints (c :: cs) = c.toNat :: codePoints cs := by
  cases cs with
  | nil => rfl
  | cons d ds => rw [codePoints, if_neg (by simpa using plain)]

theorem codePoints_marks (cs : List Char) :
    codePoints (mark :: mark :: cs) = mark.toNat :: codePoints cs := by
  rw [codePoints, if_pos (beq_self_eq_true _), if_pos (beq_self_eq_true _)]

theorem isHalf_toNat (c : Char) : isHalf c.toNat = false := by
  have valid : c.toNat < 0xd800 ∨ 0xdfff < c.toNat ∧ c.toNat < 0x110000 := c.valid
  rw [← Bool.not_eq_true, isHalf, Bool.and_eq_true, decide_eq_true_eq, decide_eq_true_eq]
  omega

/-- Whole texts have no half. -/
theorem IsWhole.hasHalf_eq_false (whole : IsWhole cs) : hasHalf cs = false := by
  induction whole with
  | nil => rfl
  | plain plain _ ih =>
    rw [hasHalf, codePoints_cons_of_ne plain, List.any_cons, isHalf_toNat, Bool.false_or]
    exact ih
  | marks _ ih =>
    rw [hasHalf, codePoints_marks, List.any_cons, isHalf_toNat, Bool.false_or]
    exact ih

/-! ## Making whole texts -/

theorem IsWhole.append (first : IsWhole cs) (second : IsWhole ds) : IsWhole (cs ++ ds) := by
  induction first with
  | nil => exact second
  | plain plain _ ih => exact .plain plain ih
  | marks _ ih => exact .marks ih

theorem isWhole_flatMap {α : Type} {f : α → List Char} {items : List α}
    (each : ∀ a ∈ items, IsWhole (f a)) : IsWhole (items.flatMap f) := by
  induction items with
  | nil => exact .nil
  | cons a items ih =>
    obtain ⟨here, later⟩ := List.forall_mem_cons.mp each
    exact here.append (ih later)

theorem isWhole_of_not_mem (plain : mark ∉ cs) : IsWhole cs := by
  induction cs with
  | nil => exact .nil
  | cons c cs ih =>
    rw [List.mem_cons, not_or] at plain
    exact .plain (Ne.symm plain.1) (ih plain.2)

theorem isWhole_kept (c : Char) : IsWhole (kept c.toNat) := by
  rw [kept, isHalf_toNat, if_neg Bool.false_ne_true]
  split
  · exact .marks .nil
  · rename_i other
    rw [Char.ofNat_toNat]
    refine .plain (fun same => other ?_) .nil
    rw [same, beq_self_eq_true]

/-- What comes from characters is whole. -/
theorem isWhole_ofCharacters (cs : List Char) : IsWhole (ofCharacters cs) :=
  isWhole_flatMap (List.forall_mem_map.mpr fun c _ => isWhole_kept c)

theorem IsWhole.reverse (whole : IsWhole cs) : IsWhole cs.reverse := by
  induction whole with
  | nil => exact .nil
  | plain plain _ ih =>
    rw [List.reverse_cons]
    exact ih.append (.plain plain .nil)
  | marks _ ih =>
    rw [List.reverse_cons, List.reverse_cons, List.append_assoc]
    exact ih.append (.marks .nil)

/-! ## Cutting whole texts -/

theorem IsWhole.of_cons (whole : IsWhole (c :: cs)) (plain : c ≠ mark) : IsWhole cs := by
  cases whole with
  | plain _ rest => exact rest
  | marks _ => exact absurd rfl plain

/-- A whole text is whole on both sides of a character other than the mark. -/
theorem IsWhole.cut (whole : IsWhole (cs ++ c :: ds)) (plain : c ≠ mark) :
    IsWhole cs ∧ IsWhole ds := by
  generalize text : cs ++ c :: ds = all at whole
  induction whole generalizing cs with
  | nil => simp at text
  | plain first rest ih =>
    cases cs with
    | nil =>
      cases text
      exact ⟨.nil, rest⟩
    | cons d cs =>
      cases text
      exact ⟨.plain first (ih rfl).1, (ih rfl).2⟩
  | marks rest ih =>
    match cs with
    | [] =>
      cases text
      exact absurd rfl plain
    | [d] =>
      cases text
      exact absurd rfl plain
    | d :: e :: cs =>
      cases text
      exact ⟨.marks (ih rfl).1, (ih rfl).2⟩

/-- The text up to the first character of a kind, which marks are not of. -/
theorem IsWhole.takeWhile {p : Char → Bool} (whole : IsWhole cs) (goesOn : p mark = true) :
    IsWhole (cs.takeWhile p) := by
  induction whole with
  | nil => exact .nil
  | @plain c cs plain _ ih =>
    rw [List.takeWhile_cons]
    split
    · exact .plain plain ih
    · exact .nil
  | marks _ ih =>
    rw [List.takeWhile_cons_of_pos goesOn, List.takeWhile_cons_of_pos goesOn]
    exact .marks ih

/-- The text from the first character that is not of a kind, which marks are not of. -/
theorem IsWhole.dropWhile {p : Char → Bool} (whole : IsWhole cs) (stops : p mark = false) :
    IsWhole (cs.dropWhile p) := by
  induction whole with
  | nil => exact .nil
  | @plain c cs plain rest ih =>
    rw [List.dropWhile_cons]
    split
    · exact ih
    · exact .plain plain rest
  | marks rest _ =>
    rw [List.dropWhile_cons_of_neg (Bool.eq_false_iff.mp stops)]
    exact .marks rest

theorem isBlank_mark : isBlank mark = false := by decide

theorem IsWhole.trim (whole : IsWhole cs) : IsWhole (trim cs) :=
  ((whole.dropWhile isBlank_mark).reverse.dropWhile isBlank_mark).reverse

-- A mark is no blank, so what has been read of a token and what is to come are whole together.
theorem isWhole_of_mem_tokensFrom {current t : List Char} (whole : IsWhole (current.reverse ++ cs))
    (member : t ∈ tokensFrom current cs) : IsWhole t := by
  induction cs generalizing current with
  | nil =>
    rw [tokensFrom] at member
    split at member
    · cases member
    · rw [List.mem_singleton.mp member]
      rwa [List.append_nil] at whole
  | cons c cs ih =>
    rw [tokensFrom] at member
    split at member
    case isTrue blank =>
      have plain : c ≠ mark := by
        rintro rfl
        exact Bool.false_ne_true (isBlank_mark.symm.trans blank)
      obtain ⟨before, after⟩ := whole.cut plain
      split at member
      · exact ih (by exact after) member
      · rcases List.mem_cons.mp member with rfl | later
        · exact before
        · exact ih (by exact after) later
    case isFalse => exact ih (by simpa using whole) member

theorem IsWhole.of_mem_tokens (whole : IsWhole cs) : ∀ t ∈ tokens cs, IsWhole t :=
  fun _ member => isWhole_of_mem_tokensFrom (by exact whole) member

theorem isWhole_of_mem_linesFrom {current line : List Char} {afterReturn : Bool}
    (whole : IsWhole (current.reverse ++ cs)) (member : line ∈ linesFrom current afterReturn cs)
    (fresh : afterReturn = true → current = []) : IsWhole line := by
  induction cs generalizing current afterReturn with
  | nil =>
    rw [linesFrom] at member
    split at member
    · cases member
    · rw [List.mem_singleton.mp member]
      rwa [List.append_nil] at whole
  | cons c cs ih =>
    rw [linesFrom] at member
    split at member
    case isTrue feed =>
      obtain ⟨returned, rfl⟩ : afterReturn = true ∧ c = '\n' := by simpa using feed
      cases fresh returned
      exact ih (by exact whole.of_cons (by decide)) member fun _ => rfl
    case isFalse =>
      split at member
      case isTrue ends =>
        have plain : c ≠ mark := by
          rintro rfl
          exact absurd ends (by decide)
        obtain ⟨before, after⟩ := whole.cut plain
        rcases List.mem_cons.mp member with rfl | later
        · exact before
        · exact ih (by exact after) later fun _ => rfl
      case isFalse => exact ih (by simpa using whole) member nofun

theorem IsWhole.of_mem_lines (whole : IsWhole cs) : ∀ line ∈ lines cs, IsWhole line :=
  fun _ member => isWhole_of_mem_linesFrom (by exact whole) member nofun

theorem unifyBreaks_cons_of_ne (other : c ≠ '\r') (cs : List Char) :
    unifyBreaks (c :: cs) = c :: unifyBreaks cs := by
  rw [unifyBreaks.eq_def]
  exact if_neg (by simpa using other)

/-- A carriage return is dropped before a line feed, and becomes one elsewhere. -/
theorem unifyBreaks_return (cs : List Char) : unifyBreaks ('\r' :: cs) = unifyBreaks cs ∨
    unifyBreaks ('\r' :: cs) = '\n' :: unifyBreaks cs := by
  rw [unifyBreaks.eq_def]
  simp only [beq_self_eq_true, if_true]
  split
  · exact .inl (unifyBreaks_cons_of_ne (by decide) _).symm
  · exact .inr rfl

theorem IsWhole.unifyBreaks (whole : IsWhole cs) : IsWhole (unifyBreaks cs) := by
  have noReturn : mark ≠ '\r' := by decide
  induction whole with
  | nil => exact .nil
  | marks _ ih =>
    rw [unifyBreaks_cons_of_ne noReturn, unifyBreaks_cons_of_ne noReturn]
    exact .marks ih
  | @plain c cs plain _ ih =>
    by_cases returned : c = '\r'
    · subst returned
      rcases unifyBreaks_return cs with same | same
      · rwa [same]
      · rw [same]
        exact .plain (by decide) ih
    · rw [unifyBreaks_cons_of_ne returned]
      exact .plain plain ih

end GrowthGrammar.Text
