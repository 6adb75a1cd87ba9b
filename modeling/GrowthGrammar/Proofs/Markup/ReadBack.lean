import GrowthGrammar.Proofs.Markup.Reader
import GrowthGrammar.Proofs.Text.Halves
import Mathlib.Tactic.SplitIfs

/-!
# Documents that are read back

Escaping leaves no quote, no `<` and no bare `&` in a value, so a value ends where its quotes end,
whatever it holds (`readValue_quoteValue`).  Each tag is then read up to its own end
(`readTag_text`), and the tags of an element put it on top of what has been read
(`foldlM_tags`).

Main statement: every document whose names are names and whose values have legal characters only is
read as the element that it was written from (`read_document`).  In particular it is well-formed,
and no value adds an element or an attribute to it.
-/

namespace GrowthGrammar

open Text (IsWhole isWhole_flatMap isWhole_of_not_mem mark)

namespace Markup

open Element (escape quoteOf quoteValue writeAttributes)

/-! ## Names -/

section

variable {name : List Char}

theorem exists_of_isName (proper : isName name = true) : ∃ c cs, name = c :: cs ∧
    isNameStart c = true ∧ ∀ d ∈ name, isNameChar d = true := by
  rw [isName, Bool.and_eq_true, List.all_eq_true] at proper
  cases name with
  | nil => exact absurd proper.1 (by decide)
  | cons c cs => exact ⟨c, cs, rfl, by simpa using proper.1, proper.2⟩

/-- A name ends where no character of a name follows. -/
theorem readName_append (proper : isName name = true) (rest : List Char)
    (ends : ∀ c ∈ rest.head?, isNameChar c = false) :
    readName (name ++ rest) = some (String.ofList name, rest) := by
  obtain ⟨-, -, -, -, chars⟩ := exists_of_isName proper
  have taken : rest.takeWhile isNameChar = [] ∧ rest.dropWhile isNameChar = rest := by
    cases rest with
    | nil => exact ⟨rfl, rfl⟩
    | cons c cs => simp [ends c rfl]
  rw [readName, List.takeWhile_append_of_pos chars, List.dropWhile_append_of_pos chars, taken.1,
    taken.2, List.append_nil, if_pos proper]

end

/-! ## Values -/

section

variable {quote c : Char} {value : List Char}

/-- A character that is written between quotes is read again. -/
theorem expandFrom_escape (legal : isLegal c = true) (safe : c = quote → c = '"')
    (rest : List Char) :
    expandFrom none (escape quote c ++ rest) = (expandFrom none rest).map (c :: ·) := by
  rw [escape]
  split_ifs with isAnd isLess isMore isLine isReturn isTab isQuote
  · rw [beq_iff_eq.mp isAnd]; rfl
  · rw [beq_iff_eq.mp isLess]; rfl
  · rw [beq_iff_eq.mp isMore]; rfl
  · rw [beq_iff_eq.mp isLine]; rfl
  · rw [beq_iff_eq.mp isReturn]; rfl
  · rw [beq_iff_eq.mp isTab]; rfl
  · rw [safe (beq_iff_eq.mp isQuote)]; rfl
  · simp_all [expandFrom, standsForItself]

theorem expand_flatMap (legal : ∀ c ∈ value, isLegal c = true)
    (safe : ∀ c ∈ value, c = quote → c = '"') :
    expand (value.flatMap (escape quote)) = some value := by
  rw [expand]
  induction value with
  | nil => rfl
  | cons c cs ih =>
    obtain ⟨legalHere, legalLater⟩ := List.forall_mem_cons.mp legal
    obtain ⟨safeHere, safeLater⟩ := List.forall_mem_cons.mp safe
    rw [List.flatMap_cons, expandFrom_escape legalHere safeHere, ih legalLater safeLater]
    rfl

theorem quoteOf_cases (value : List Char) :
    quoteOf value = '"' ∨ quoteOf value = '\'' ∧ '\'' ∉ value := by
  rw [quoteOf]
  split
  case isTrue single => exact .inr ⟨rfl, by simpa using (Bool.and_eq_true_iff.mp single).2⟩
  case isFalse => exact .inl rfl

/-- The quotes around a value do not stand in it. -/
theorem ne_of_mem_escape (isQuote : quote = '"' ∨ quote = '\'') :
    ∀ d ∈ escape quote c, d ≠ quote := by
  rw [escape]
  rcases isQuote with rfl | rfl
  all_goals
    repeat' split
    all_goals simp_all

theorem readValue_quoteValue (legal : ∀ c ∈ value, isLegal c = true) (rest : List Char) :
    readValue (quoteValue value ++ rest) = some (String.ofList value, rest) := by
  have isQuote : quoteOf value = '"' ∨ quoteOf value = '\'' :=
    (quoteOf_cases value).imp_right And.left
  have safe : ∀ c ∈ value, c = quoteOf value → c = '"' := by
    rintro c member same
    rcases quoteOf_cases value with double | ⟨single, absent⟩
    · exact same.trans double
    · exact absurd (same.trans single ▸ member) absent
  have inside : ∀ d ∈ value.flatMap (escape (quoteOf value)), (d != quoteOf value) = true := by
    intro d member
    obtain ⟨c, -, found⟩ := List.mem_flatMap.mp member
    simpa using ne_of_mem_escape isQuote d found
  rw [quoteValue, List.append_assoc, List.cons_append, readValue, if_pos (by simpa using isQuote),
    List.takeWhile_append_of_pos inside, List.dropWhile_append_of_pos inside]
  simp [expand_flatMap legal safe]

end

/-! ## Reading piece by piece -/

/-- Pieces that can be read, whatever follows them, are read up to where no piece begins. -/
theorem readMany_flatMap {α : Type} {read : List Char → Option (α × List Char)}
    {text : α → List Char} {items : List α} {rest : List Char}
    (reads : ∀ a ∈ items, text a ≠ [] ∧ ∀ left, read (text a ++ left) = some (a, left))
    (stops : read rest = none) :
    readMany read (items.flatMap text ++ rest) = (items, rest) := by
  induction items with
  | nil => rw [List.flatMap_nil, List.nil_append, readMany, stops]
  | cons a items ih =>
    obtain ⟨⟨some, here⟩, later⟩ := List.forall_mem_cons.mp reads
    have shorter : (items.flatMap text ++ rest).length <
        (text a ++ (items.flatMap text ++ rest)).length := by
      rw [@List.length_append _ (text a)]
      exact Nat.lt_add_of_pos_left (List.length_pos_iff.mpr some)
    rw [List.flatMap_cons, List.append_assoc, readMany, here]
    simp only [if_pos shorter, ih later]

/-! ## Tags -/

/-- The value of an attribute is made of characters, and of legal ones. -/
structure IsReadable (value : List Char) : Prop where
  /-- No half of a character stands in it. -/
  whole : IsWhole value
  /-- All characters may stand in a document. -/
  legal : ∀ c ∈ value, isLegal c = true

/-- The attributes have names that differ, and readable values. -/
structure AreProper (attributes : List (String × String)) : Prop where
  /-- Each of them has a name and a value that can be read. -/
  each : ∀ a ∈ attributes, isName a.1.toList = true ∧ IsReadable a.2.toList
  /-- No two of them have one name. -/
  nodup : (attributes.map Prod.fst).Nodup

/-- An attribute as it is written, behind a space. -/
def attributeText (a : String × String) : List Char :=
  ' ' :: a.1.toList ++ '=' :: quoteValue a.2.toList

theorem writeAttributes_eq (attributes : List (String × String)) :
    writeAttributes attributes = attributes.flatMap attributeText := by
  induction attributes with
  | nil => rfl
  | cons a rest ih => simp [writeAttributes, attributeText, ih]

theorem readAttribute_attributeText {a : String × String} (name : isName a.1.toList = true)
    (value : IsReadable a.2.toList) (rest : List Char) :
    readAttribute (attributeText a ++ rest) = some (a, rest) := by
  have named := readName_append name ('=' :: (quoteValue a.2.toList ++ rest))
    (by rintro c ⟨⟩; decide)
  rw [String.ofList_toList] at named
  rw [attributeText, List.cons_append, List.cons_append, List.append_assoc, List.cons_append,
    readAttribute, named]
  simp [readValue_quoteValue value.legal]

/-- A tag as it is written. -/
def Tag.text : Tag → List Char
  | .empty name attributes => '<' :: name.toList ++ writeAttributes attributes ++ ['/', '>']
  | .start name attributes => '<' :: name.toList ++ writeAttributes attributes ++ ['>']
  | .stop name => '<' :: '/' :: name.toList ++ ['>']

/-- The names in a tag are names, and the attributes are proper. -/
def Tag.IsProper : Tag → Prop
  | .empty name attributes => isName name.toList = true ∧ AreProper attributes
  | .start name attributes => isName name.toList = true ∧ AreProper attributes
  | .stop name => isName name.toList = true

section

variable {name : String} {attributes : List (String × String)}

/-- The name of a tag and its attributes are read up to the end of the tag. -/
theorem read_nameAndAttributes (named : isName name.toList = true) (proper : AreProper attributes)
    {rest : List Char} (ends : ∃ cs, rest = '/' :: cs ∨ rest = '>' :: cs) :
    readName (name.toList ++ (writeAttributes attributes ++ rest)) =
        some (name, writeAttributes attributes ++ rest) ∧
      readMany readAttribute (writeAttributes attributes ++ rest) = (attributes, rest) := by
  have each : ∀ a ∈ attributes, attributeText a ≠ [] ∧
      ∀ left, readAttribute (attributeText a ++ left) = some (a, left) := fun a member =>
    ⟨List.cons_ne_nil _ _, readAttribute_attributeText (proper.each a member).1
      (proper.each a member).2⟩
  constructor
  · rw [readName_append named, String.ofList_toList]
    rw [writeAttributes_eq]
    cases attributes with
    | nil => rcases ends with ⟨cs, rfl | rfl⟩ <;> (rintro c ⟨⟩; decide)
    | cons a more =>
      rintro c ⟨⟩
      decide
  · rw [writeAttributes_eq]
    refine readMany_flatMap each ?_
    rcases ends with ⟨cs, rfl | rfl⟩ <;> rfl

/-- A tag that begins with a name is not an end tag. -/
theorem readTag_of_name {cs : List Char} (named : isName name.toList = true) :
    readTag ('<' :: (name.toList ++ cs)) = readStart (name.toList ++ cs) := by
  obtain ⟨c, more, chars, first, -⟩ := exists_of_isName named
  rw [chars, List.cons_append, readTag]
  intro left same
  rw [(List.cons.inj same).1] at first
  exact absurd first (by decide)

end

/-- A tag is read up to its own end. -/
theorem readTag_text {t : Tag} (proper : t.IsProper) (rest : List Char) :
    readTag (t.text ++ rest) = some (t, rest) := by
  cases t with
  | stop name =>
    have named := readName_append proper ('>' :: rest) (by rintro c ⟨⟩; decide)
    rw [String.ofList_toList] at named
    rw [Tag.text, List.append_assoc, List.cons_append, List.cons_append, readTag, readStop]
    simp [named]
  | empty name attributes =>
    obtain ⟨named, sound⟩ := proper
    obtain ⟨nameRead, attributesRead⟩ :=
      read_nameAndAttributes named sound ⟨'>' :: rest, .inl rfl⟩
    simp [Tag.text, readTag_of_name named, readStart, nameRead, attributesRead, sound.nodup]
  | start name attributes =>
    obtain ⟨named, sound⟩ := proper
    obtain ⟨nameRead, attributesRead⟩ :=
      read_nameAndAttributes named sound ⟨rest, .inr rfl⟩
    simp [Tag.text, readTag_of_name named, readStart, nameRead, attributesRead, sound.nodup]

/-! ## Whole texts -/

theorem isWhole_of_isName {name : List Char} (named : isName name = true) : IsWhole name := by
  obtain ⟨-, -, -, -, chars⟩ := exists_of_isName named
  exact isWhole_of_not_mem fun member => absurd (chars mark member) (by decide)

/-- Escaping leaves marks as they are and makes none. -/
theorem isWhole_flatMap_escape {quote : Char} (isQuote : quote = '"' ∨ quote = '\'')
    {value : List Char} (whole : IsWhole value) : IsWhole (value.flatMap (escape quote)) := by
  have escape_mark : escape quote mark = [mark] := by
    rcases isQuote with rfl | rfl <;> decide
  induction whole with
  | nil => exact .nil
  | @plain c cs plain _ ih =>
    have here : IsWhole (escape quote c) := by
      refine isWhole_of_not_mem ?_
      rw [escape]
      split_ifs <;> first | decide | simpa using plain.symm
    exact here.append ih
  | marks _ ih =>
    rw [List.flatMap_cons, List.flatMap_cons, escape_mark]
    exact .marks ih

theorem isWhole_quoteValue {value : List Char} (whole : IsWhole value) :
    IsWhole (quoteValue value) := by
  have isQuote : quoteOf value = '"' ∨ quoteOf value = '\'' :=
    (quoteOf_cases value).imp_right And.left
  have plain : quoteOf value ≠ mark := by
    rcases isQuote with same | same <;> (rw [same]; decide)
  exact .plain plain ((isWhole_flatMap_escape isQuote whole).append (.plain plain .nil))

theorem isWhole_writeAttributes {attributes : List (String × String)}
    (proper : AreProper attributes) : IsWhole (writeAttributes attributes) := by
  rw [writeAttributes_eq]
  refine isWhole_flatMap fun a member => ?_
  obtain ⟨named, readable⟩ := proper.each a member
  exact (IsWhole.plain (by decide) (isWhole_of_isName named)).append
    (.plain (by decide) (isWhole_quoteValue readable.whole))

theorem Tag.isWhole_text {t : Tag} (proper : t.IsProper) : IsWhole t.text := by
  have closes : IsWhole ['>'] := .plain (by decide) .nil
  have closesEmpty : IsWhole ['/', '>'] := .plain (by decide) closes
  cases t with
  | stop name =>
    exact .plain (by decide) (.plain (by decide) ((isWhole_of_isName proper).append closes))
  | empty name attributes =>
    exact ((IsWhole.plain (by decide) (isWhole_of_isName proper.1)).append
      (isWhole_writeAttributes proper.2)).append closesEmpty
  | start name attributes =>
    exact ((IsWhole.plain (by decide) (isWhole_of_isName proper.1)).append
      (isWhole_writeAttributes proper.2)).append closes

end Markup

namespace Element

open Markup (Tag Progress isName AreProper)

mutual

/-- The tags of an element, in the order in which they are written. -/
def tags : Element → List Tag
  | .leaf name attributes => [.empty name attributes]
  | .node name attributes children =>
    .start name attributes :: tagsAll children ++ [.stop name]

/-- The tags of some elements. -/
def tagsAll : List Element → List Tag
  | [] => []
  | e :: rest => tags e ++ tagsAll rest

end

mutual

/-- The names in an element are names, and its attributes and those of the elements inside are
proper. -/
def IsProper : Element → Prop
  | .leaf name attributes => isName name.toList = true ∧ AreProper attributes
  | .node name attributes children =>
    (isName name.toList = true ∧ AreProper attributes) ∧ AllProper children

/-- The elements are proper. -/
def AllProper : List Element → Prop
  | [] => True
  | e :: rest => IsProper e ∧ AllProper rest

end

theorem allProper_iff (elements : List Element) :
    AllProper elements ↔ ∀ e ∈ elements, e.IsProper := by
  induction elements with
  | nil => simp [AllProper]
  | cons e rest ih => rw [AllProper, ih, List.forall_mem_cons]

mutual

/-- An element is written as its tags are. -/
theorem write_eq : ∀ e : Element, write e = (tags e).flatMap Tag.text
  | .leaf name attributes => by simp [write, tags, Tag.text]
  | .node name attributes children => by
    simp [write, tags, Tag.text, writeAll_eq children]

theorem writeAll_eq : ∀ elements : List Element,
    writeAll elements = (tagsAll elements).flatMap Tag.text
  | [] => rfl
  | e :: rest => by rw [writeAll, tagsAll, write_eq e, writeAll_eq rest, List.flatMap_append]

end

mutual

theorem isProper_of_mem_tags : ∀ e : Element, e.IsProper → ∀ t ∈ tags e, t.IsProper
  | .leaf name attributes, proper => by
    rw [tags, List.forall_mem_singleton]
    exact proper
  | .node name attributes children, ⟨proper, inside⟩ => by
    rw [tags, List.forall_mem_append, List.forall_mem_cons, List.forall_mem_singleton]
    exact ⟨⟨proper, isProper_of_mem_tagsAll children inside⟩, proper.1⟩

theorem isProper_of_mem_tagsAll :
    ∀ elements : List Element, AllProper elements → ∀ t ∈ tagsAll elements, t.IsProper
  | [], _ => nofun
  | e :: rest, ⟨here, later⟩ => by
    rw [tagsAll, List.forall_mem_append]
    exact ⟨isProper_of_mem_tags e here, isProper_of_mem_tagsAll rest later⟩

end

mutual

/-- The tags of an element put it in front of what has been read. -/
theorem foldlM_tags : ∀ (e : Element) (p : Progress) (rest : List Tag),
    (tags e ++ rest).foldlM Progress.take p = rest.foldlM Progress.take ⟨e :: p.done, p.opened⟩
  | .leaf name attributes, p, rest => rfl
  | .node name attributes children, p, rest => by
    have closed (done : List Element) : Progress.take
        ⟨done, ⟨name, attributes, p.done⟩ :: p.opened⟩ (.stop name) =
          some ⟨.node name attributes done.reverse :: p.done, p.opened⟩ := by
      simp [Progress.take]
    rw [tags, List.cons_append, List.cons_append, List.append_assoc, List.foldlM_cons]
    refine (foldlM_tagsAll children _ _).trans ?_
    rw [List.cons_append, List.nil_append, List.foldlM_cons, closed, List.append_nil,
      List.reverse_reverse]
    rfl

/-- So do the tags of some elements, the last one first. -/
theorem foldlM_tagsAll : ∀ (elements : List Element) (p : Progress) (rest : List Tag),
    (tagsAll elements ++ rest).foldlM Progress.take p =
      rest.foldlM Progress.take ⟨elements.reverse ++ p.done, p.opened⟩
  | [], p, rest => rfl
  | e :: more, p, rest => by
    rw [tagsAll, List.append_assoc, foldlM_tags e, foldlM_tagsAll more, List.reverse_cons,
      List.append_assoc]
    rfl

end

end Element

namespace Markup

/-- A document whose element is proper is read as that element. -/
theorem read_document {e : Element} (proper : e.IsProper) : read e.document = some e := by
  have each := Element.isProper_of_mem_tags e proper
  have whole : IsWhole (e.tags.flatMap Tag.text) :=
    isWhole_flatMap fun t member => Tag.isWhole_text (each t member)
  have tags : readMany readTag (e.tags.flatMap Tag.text ++ []) = (e.tags, []) :=
    readMany_flatMap (fun t member => ⟨by cases t <;> exact List.cons_ne_nil _ _,
      readTag_text (each t member)⟩) rfl
  have built : build e.tags = some e := by
    have run := Element.foldlM_tags e ⟨[], []⟩ []
    rw [List.append_nil] at run
    rw [build, run]
    rfl
  rw [List.append_nil] at tags
  rw [read, Element.document, String.toList_ofList, Element.write_eq, whole.hasHalf_eq_false,
    if_neg Bool.false_ne_true, tags]
  exact built

end Markup

end GrowthGrammar
