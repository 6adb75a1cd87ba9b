import GrowthGrammar.Plant.File
import GrowthGrammar.Proofs.Plant.Acceptance
import GrowthGrammar.Proofs.Text.Halves
import GrowthGrammar.Proofs.Word

/-!
# Plants without halves of characters

The text of a plant file comes from bytes that are UTF-8, so it is whole (`isWhole_of_textOf`).  The
names of a sheet are pieces of its text, cut at blanks and at signs of the grammar, so they are
whole (`Describes.isWhole`), and a word that is derived has no other names.

Main statement: the text of every word that is derived from a plant file is whole
(`Follows.isWhole_text`).
-/

namespace GrowthGrammar

namespace Plant

open Text (IsWhole)

/-- The text of a plant file has no half of a character. -/
theorem isWhole_of_textOf {tree : FileTree} {shown : String} {path : FilePath} {text : List Char}
    (found : textOf tree shown path = .ok text) : IsWhole text := by
  obtain ⟨bytes, -, found⟩ := ok_of_except_bind found
  split at found
  · cases found
  · cases found
    exact (Text.isWhole_ofCharacters _).unifyBreaks

/-! ## Sheets -/

/-- All names of the sheet that words are made of are whole. -/
structure IsWholeSheet (s : Sheet) : Prop where
  initial : ∀ name ∈ s.initial, IsWhole name.toList
  rules : ∀ r ∈ s.rules, ∀ name ∈ r.body.successor, IsWhole name.toList

variable {text cs : List Char}

theorem isWhole_of_mem_tokensOf (whole : IsWhole cs) {name : String} (member : name ∈ tokensOf cs) :
    IsWhole name.toList := by
  obtain ⟨t, token, rfl⟩ := List.mem_map.mp member
  rw [String.toList_ofList]
  exact whole.of_mem_tokens t token

theorem isWhole_of_mem_contents (whole : IsWhole text) (member : cs ∈ contents (Text.lines text)) :
    IsWhole cs := by
  obtain ⟨line, inside, rfl⟩ := List.mem_map.mp (List.mem_filter.mp member).1
  exact ((whole.of_mem_lines line inside).takeWhile (by decide)).trim

theorem isWhole_remainder (whole : IsWhole cs) (initial : IsInitial cs) :
    IsWhole (remainder cs) := by
  obtain ⟨rest, rfl⟩ := initial
  have behind : remainder (PlantLine.initialMark ++ rest) = rest := List.drop_left
  rw [behind]
  have marked : IsWhole ("initial".toList ++ ':' :: rest) := whole
  exact (marked.cut (by decide)).2

theorem mem_tokens_of_bodyShape {tokens : List String} {body : Body} (shape : BodyShape tokens body)
    {name : String} (member : name ∈ body.successor) : name ∈ tokens := by
  cases shape with
  | plain _ => exact member
  | weighted _ _ _ => exact List.mem_cons_of_mem _ member

/-- The successor of a rule stands behind an arrow, so its names are whole. -/
theorem isWhole_of_writes (whole : IsWhole cs) {written : WrittenRule}
    (writes : Writes cs written) : ∀ name ∈ written.body.successor, IsWhole name.toList := by
  have free : (NameTable.new .forever).lock.IsFree := Lock.free_isFree _ _
  obtain ⟨⟨before, after, same, -, -, shape⟩, -⟩ :=
    (Rule.read_ok_iff free (String.ofList cs) written).mp (writes _ free)
  rw [String.toList_ofList] at same
  subst same
  have behind : IsWhole after := ((whole.cut (by decide)).2).of_cons (by decide)
  exact fun name member => isWhole_of_mem_tokensOf behind (mem_tokens_of_bodyShape shape member)

/-- The sheet of a whole text has whole names. -/
theorem Describes.isWhole {s : Sheet} (describes : Describes text s) (whole : IsWhole text) :
    IsWholeSheet s := by
  constructor
  case initial =>
    obtain ⟨line, only, -, names, -⟩ := describes.initial
    have found : line ∈ (contents (Text.lines text)).filter fun cs => IsInitial cs := by
      rw [only]
      exact List.mem_singleton_self line
    obtain ⟨inside, initial⟩ := List.mem_filter.mp found
    have content := isWhole_of_mem_contents whole inside
    have remaining := isWhole_remainder content (by simpa using initial)
    rw [names]
    exact fun name member => isWhole_of_mem_tokensOf remaining member
  case rules =>
    intro r member
    obtain ⟨cs, inside, writes⟩ := exists_mem_of_forall₂ describes.rules member
    exact isWhole_of_writes (isWhole_of_mem_contents whole (List.mem_filter.mp inside).1) writes

/-! ## Words -/

theorem isWhole_text {w : Word} (names : ∀ s ∈ w, IsWhole s.name.toList) :
    IsWhole w.text.toList := by
  have space : ' ' ≠ Text.mark := by decide
  rw [Word.toList_text]
  cases w with
  | nil => exact .nil
  | cons s rest =>
    obtain ⟨here, later⟩ := List.forall_mem_cons.mp names
    rw [Word.names, List.map_cons, List.map_cons, Text.intercalate_cons]
    refine here.append ?_
    clear names here
    induction rest with
    | nil => exact .nil
    | cons t rest ih =>
      obtain ⟨next, others⟩ := List.forall_mem_cons.mp later
      rw [List.map_cons, List.map_cons, Text.spaced_cons]
      exact .plain space (next.append (ih others))

/-- A word that is derived from a plant of whole names has a whole text. -/
theorem Follows.isWhole_text {p : Plant} {ws after : Workspace} {s : Sheet}
    (follows : p.Follows ws s) (whole : IsWholeSheet s) {fresh : Random.Generator} {w : Word}
    (derived : (p.derive fresh).runFrom ws = (.ok w, after)) : IsWhole w.text.toList := by
  obtain ⟨⟨table, system, rules, hosts, ready, written, -⟩, initial, -, -⟩ := follows
  rw [Plant.derive, hosts.onSystem_runFrom] at derived
  rcases run : (System.derive p.run fresh p.initial).runFrom system with ⟨outcome, now⟩
  rw [run] at derived
  cases derived
  obtain ⟨-, g, grown⟩ := System.ok_of_derive run
  refine Plant.isWhole_text (Derivation.passes_keeps (I := fun w => ∀ s ∈ w, IsWhole s.name.toList)
    (fun w v g g' all passed => ?_) ?_ grown)
  · have rewrites := Derivation.rewrites_of_pass ready.closed.frozen_holds passed
    refine rewrites.forall_mem (fun r member symbol inside => ?_) all
    have spelled : r.written ∈ s.rules := written ▸ List.mem_map_of_mem member
    exact whole.rules _ spelled _ (List.mem_map_of_mem inside)
  · intro symbol member
    exact whole.initial _ (initial ▸ List.mem_map_of_mem member)

end Plant

end GrowthGrammar
