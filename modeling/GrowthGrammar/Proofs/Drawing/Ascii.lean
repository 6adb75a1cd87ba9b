import GrowthGrammar.Drawing.Graph.Document
import GrowthGrammar.Drawing.Svg
import GrowthGrammar.Proofs.Datum.Json
import GrowthGrammar.Proofs.Rule.Grammar
import GrowthGrammar.Proofs.Text.Halves

/-!
# Drawings as ASCII

Numbers are made of visible characters of ASCII (`Text.IsVisible`), and so are the texts of lines
and fits, which are numbers and letters.  Tags and the names of fields are ASCII, and a JSON document
escapes every other character of its texts.  So each JSON document is ASCII (`isAscii_toJson`), and
the document of a drawing is if its canvas has sizes that are numbers and a colour that is ASCII
(`isAscii_svgElement`).

ASCII has no mark, so these documents have no half of a character (`Text.IsAscii.isWhole`).
-/

namespace GrowthGrammar

namespace Text

/-- The text has characters of ASCII only. -/
def IsAscii (cs : List Char) : Prop := ∀ c ∈ cs, c.toNat < 0x80

-- the characters of the text are tried, and not all characters
instance (cs : List Char) : Decidable (IsAscii cs) :=
  List.decidableBAll (fun c : Char => c.toNat < 0x80) cs

variable {cs ds : List Char}

@[simp]
theorem isAscii_nil : IsAscii [] := nofun

@[simp]
theorem isAscii_cons_iff (c : Char) (cs : List Char) :
    IsAscii (c :: cs) ↔ c.toNat < 0x80 ∧ IsAscii cs :=
  List.forall_mem_cons

@[simp]
theorem isAscii_append_iff (cs ds : List Char) : IsAscii (cs ++ ds) ↔ IsAscii cs ∧ IsAscii ds :=
  List.forall_mem_append

theorem isAscii_flatMap {α : Type} {f : α → List Char} {items : List α}
    (each : ∀ a ∈ items, IsAscii (f a)) : IsAscii (items.flatMap f) := by
  intro c member
  obtain ⟨a, inside, found⟩ := List.mem_flatMap.mp member
  exact each a inside c found

theorem forall_mem_intercalate {P : Char → Prop} {separator : List Char}
    {texts : List (List Char)} (between : ∀ c ∈ separator, P c)
    (each : ∀ t ∈ texts, ∀ c ∈ t, P c) : ∀ c ∈ separator.intercalate texts, P c := by
  induction texts with
  | nil => nofun
  | cons text more ih =>
    obtain ⟨here, later⟩ := List.forall_mem_cons.mp each
    cases more with
    | nil => simpa using here
    | cons next more =>
      rw [List.intercalate_cons_cons, List.forall_mem_append, List.forall_mem_append]
      exact ⟨⟨here, between⟩, ih later⟩

/-- The mark is not in ASCII. -/
theorem IsAscii.isWhole (ascii : IsAscii cs) : IsWhole cs :=
  isWhole_of_not_mem fun member => absurd (ascii mark member) (by decide)

/-- The text has visible characters of ASCII and spaces only. -/
def IsVisible (cs : List Char) : Prop := ∀ c ∈ cs, 0x20 ≤ c.toNat ∧ c.toNat < 0x7f

instance (cs : List Char) : Decidable (IsVisible cs) :=
  List.decidableBAll (fun c : Char => 0x20 ≤ c.toNat ∧ c.toNat < 0x7f) cs

@[simp]
theorem isVisible_nil : IsVisible [] := nofun

@[simp]
theorem isVisible_cons_iff (c : Char) (cs : List Char) :
    IsVisible (c :: cs) ↔ (0x20 ≤ c.toNat ∧ c.toNat < 0x7f) ∧ IsVisible cs :=
  List.forall_mem_cons

@[simp]
theorem isVisible_append_iff (cs ds : List Char) :
    IsVisible (cs ++ ds) ↔ IsVisible cs ∧ IsVisible ds :=
  List.forall_mem_append

theorem IsVisible.of_subset (visible : IsVisible ds) (subset : cs ⊆ ds) : IsVisible cs :=
  fun c member => visible c (subset member)

theorem IsVisible.isAscii (visible : IsVisible cs) : IsAscii cs :=
  fun c member => (visible c member).2.trans (by decide)

theorem isAscii_hexDigits (width n : Nat) : IsAscii (hexDigits width n) := by
  induction width generalizing n with
  | zero => exact isAscii_nil
  | succ width ih =>
    have digit : ∀ d < 16, (Nat.digitChar d).toNat < 0x80 := by decide
    simp [hexDigits, ih, digit _ (Nat.mod_lt n (by decide))]

end Text

open Text (IsAscii IsVisible)

/-! ## Numbers -/

namespace Decimal

variable {cs : List Char}

theorem isVisible_of_numeralChars (chars : ∀ c ∈ cs, c ∈ numeralChars) : IsVisible cs :=
  fun c member =>
    of_mem_numeralChars (fun c => 0x20 ≤ c.toNat ∧ c.toNat < 0x7f) (by decide) (chars c member)

theorem AreDigits.isVisible (digits : AreDigits cs) : IsVisible cs :=
  isVisible_of_numeralChars fun c member => mem_numeralChars_of_isDigit (digits c member)

theorem isVisible_signed (visible : IsVisible cs) (negative : Bool) :
    IsVisible (signed negative cs) := by
  cases negative with
  | false => exact visible
  | true => simpa [signed] using visible

theorem isVisible_notFinite (x : Float) : IsVisible (notFinite x).toList := by
  rw [notFinite]
  split
  · decide
  · split <;> decide

theorem isVisible_exact (x : Float) : IsVisible (exact x).toList := by
  rw [exact]
  split
  · exact isVisible_notFinite x
  · rw [String.toList_ofList]
    exact isVisible_signed (isVisible_of_numeralChars (Scientific.writes_write _ _).chars) _

theorem isVisible_fixed (places : Nat) (x : Float) : IsVisible (fixed places x) := by
  rw [fixed]
  split
  · exact isVisible_notFinite x
  · rename_i d _
    have digits := (areDigits_padded (places + 1 - (decimalDigits (unitsOf places d)).length)
      (unitsOf places d)).isVisible
    refine isVisible_signed ?_ _
    simp only [fixedUnits, Text.isVisible_append_iff, Text.isVisible_cons_iff]
    exact ⟨digits.of_subset (List.take_subset _ _), by decide,
      digits.of_subset (List.drop_subset _ _)⟩

theorem isVisible_toString (n : Int) : IsVisible (toString n).toList := by
  rw [Datum.toList_toString]
  exact isVisible_signed (areDigits_decimalDigits _).isVisible _

end Decimal

/-! ## JSON documents -/

namespace Datum

theorem isAscii_jsonCodePoint (n : Nat) : IsAscii (jsonCodePoint n) := by
  have escape (u : Nat) : IsAscii (unitEscape u) := by
    simp [unitEscape, Text.isAscii_hexDigits]
  rw [jsonCodePoint]
  split
  case isTrue special =>
    have either : n = 34 ∨ n = 92 := by simpa using special
    rcases either with rfl | rfl <;> decide
  repeat' split
  case isFalse.isFalse.isFalse.isFalse.isFalse.isFalse.isTrue printable =>
    obtain ⟨-, high⟩ : 32 ≤ n ∧ n ≤ 126 := by simpa using printable
    have valid : n.isValidChar := .inl (by omega)
    rw [Text.isAscii_cons_iff, Char.toNat_ofNat, if_pos valid]
    exact ⟨by omega, Text.isAscii_nil⟩
  case isFalse.isFalse.isFalse.isFalse.isFalse.isFalse.isFalse =>
    exact Text.isAscii_flatMap fun u _ => escape u
  all_goals decide

theorem isAscii_jsonString (s : String) : IsAscii (jsonString s).toList := by
  have inside : IsAscii ((Text.codePoints s.toList).flatMap jsonCodePoint) :=
    Text.isAscii_flatMap fun n _ => isAscii_jsonCodePoint n
  simp [jsonString, inside]

theorem isAscii_jsonReal (x : Float) : IsAscii (jsonReal x).toList := by
  rw [jsonReal]
  split
  · decide
  · split
    · split <;> decide
    · exact (Decimal.isVisible_exact x).isAscii

theorem isAscii_newLine (level : Nat) : IsAscii (newLine level).toList := by
  simp [newLine, IsAscii]

theorem isAscii_commas {texts : List String} (each : ∀ s ∈ texts, IsAscii s.toList) :
    IsAscii (",".intercalate texts).toList := by
  rw [String.toList_intercalate]
  have comma : IsAscii ",".toList := by decide
  exact Text.forall_mem_intercalate comma (List.forall_mem_map.mpr each)

mutual

theorem isAscii_writeValue (level : Nat) : ∀ d : Datum, IsAscii (writeValue level d).toList
  | .null => by simp [writeValue]
  | .bool true => by simp [writeValue]
  | .bool false => by simp [writeValue]
  | .int n => (Decimal.isVisible_toString n).isAscii
  | .real x => isAscii_jsonReal x
  | .text s => isAscii_jsonString s
  | .list items => by
    by_cases none : items = []
    · simp [none, writeValue]
    · rw [writeValue_list none, Text.isAscii_cons_iff, Text.isAscii_append_iff]
      refine ⟨by decide, isAscii_commas (isAscii_writeItems (level + 1) items), ?_⟩
      simp [isAscii_newLine]
  | .record fields => by
    by_cases none : fields = []
    · simp [none, writeValue]
    · rw [writeValue_record none, Text.isAscii_cons_iff, Text.isAscii_append_iff]
      refine ⟨by decide, isAscii_commas (isAscii_writeFields (level + 1) fields), ?_⟩
      simp [isAscii_newLine]

theorem isAscii_writeItems (level : Nat) :
    ∀ items : List Datum, ∀ s ∈ writeItems level items, IsAscii s.toList
  | [] => by simp [writeItems]
  | d :: rest => by
    rw [writeItems, List.forall_mem_cons, String.toList_append, Text.isAscii_append_iff]
    exact ⟨⟨isAscii_newLine level, isAscii_writeValue level d⟩, isAscii_writeItems level rest⟩

theorem isAscii_writeFields (level : Nat) :
    ∀ fields : List (String × Datum), ∀ s ∈ writeFields level fields, IsAscii s.toList
  | [] => by simp [writeFields]
  | (name, d) :: rest => by
    rw [writeFields, List.forall_mem_cons]
    refine ⟨?_, isAscii_writeFields level rest⟩
    simp [isAscii_newLine, isAscii_jsonString, isAscii_writeValue level d]

end

/-- A JSON document is ASCII, whatever its texts hold. -/
theorem isAscii_toJson (d : Datum) : IsAscii d.toJson.toList := isAscii_writeValue 0 d

end Datum

/-! ## Markup -/

namespace Element

/-- The names and the values of the attributes are ASCII. -/
def AsciiAttributes (attributes : List (String × String)) : Prop :=
  ∀ a ∈ attributes, IsAscii a.1.toList ∧ IsAscii a.2.toList

theorem isAscii_escape {quote c : Char} (ascii : c.toNat < 0x80) : IsAscii (escape quote c) := by
  rw [escape]
  repeat' split
  case isFalse.isFalse.isFalse.isFalse.isFalse.isFalse.isFalse => simpa using ascii
  all_goals decide

theorem isAscii_quoteValue {value : List Char} (ascii : IsAscii value) :
    IsAscii (quoteValue value) := by
  have quote : (quoteOf value).toNat < 0x80 := by
    rw [quoteOf]
    split <;> decide
  have inside : IsAscii (value.flatMap (escape (quoteOf value))) :=
    Text.isAscii_flatMap fun c member => isAscii_escape (ascii c member)
  simp [quoteValue, quote, inside]

theorem isAscii_writeAttributes {attributes : List (String × String)}
    (ascii : AsciiAttributes attributes) : IsAscii (writeAttributes attributes) := by
  induction attributes with
  | nil => exact Text.isAscii_nil
  | cons a rest ih =>
    obtain ⟨⟨name, value⟩, later⟩ := List.forall_mem_cons.mp ascii
    simp [writeAttributes, name, isAscii_quoteValue value, ih later]

theorem isAscii_writeAll {elements : List Element} (each : ∀ e ∈ elements, IsAscii e.write) :
    IsAscii (writeAll elements) := by
  induction elements with
  | nil => exact Text.isAscii_nil
  | cons e rest ih =>
    obtain ⟨here, later⟩ := List.forall_mem_cons.mp each
    simp [writeAll, here, ih later]

variable {tag : String} {attributes : List (String × String)}

theorem isAscii_leaf (name : IsAscii tag.toList) (ascii : AsciiAttributes attributes) :
    IsAscii (leaf tag attributes).write := by
  simp [write, name, isAscii_writeAttributes ascii]

theorem isAscii_node (name : IsAscii tag.toList) (ascii : AsciiAttributes attributes)
    {children : List Element} (each : ∀ e ∈ children, IsAscii e.write) :
    IsAscii (node tag attributes children).write := by
  simp [write, name, isAscii_writeAttributes ascii, isAscii_writeAll each]

end Element

/-! ## Drawings -/

namespace Drawing

theorem dropTrailing_subset (c : Char) (cs : List Char) : dropTrailing c cs ⊆ cs := by
  intro d member
  have inside := (List.dropWhile_suffix _).subset (List.mem_reverse.mp member)
  exact List.mem_reverse.mp inside

/-- Trimming adds nothing but a zero where nothing is left. -/
theorem coordinate_subset (x : Float) : coordinate x ⊆ '0' :: Decimal.fixed places x := by
  rw [coordinate, trimDecimal]
  split
  · simp
  · exact List.subset_cons_of_subset _
      (List.Subset.trans (dropTrailing_subset _ _) (dropTrailing_subset _ _))

theorem isVisible_coordinate (x : Float) : IsVisible (coordinate x) := by
  have zero : IsVisible ['0'] := by decide
  refine IsVisible.of_subset ?_ (coordinate_subset x)
  exact (Text.isVisible_append_iff ['0'] _).mpr ⟨zero, Decimal.isVisible_fixed places x⟩

theorem isVisible_coordinateText (x : Float) : IsVisible (coordinateText x).toList := by
  rw [coordinateText, String.toList_ofList]
  exact isVisible_coordinate x

theorem isVisible_polylineText (points : List (Point Float)) :
    IsVisible (polylineText points).toList := by
  have command (letter : Char) (visible : 0x20 ≤ letter.toNat ∧ letter.toNat < 0x7f)
      (p : Point Float) : IsVisible (command letter p) := by
    simp [Drawing.command, visible, isVisible_coordinate]
  rw [polylineText, String.toList_ofList]
  have space : IsVisible [' '] := by decide
  refine Text.forall_mem_intercalate space ?_
  cases points with
  | nil => simp [polylineCommands]
  | cons p rest =>
    refine List.forall_mem_cons.mpr ⟨command 'M' (by decide) p, List.forall_mem_map.mpr ?_⟩
    exact fun q _ => command 'L' (by decide) q

theorem isVisible_fitText (f : Fit Float) : IsVisible (fitText f).toList := by
  simp [fitText, transformation, isVisible_coordinateText]

theorem isVisible_placement {path : Path Float} {width height : Size} {fit : String}
    (placed : placement path width height = .ok fit) : IsVisible fit.toList := by
  rw [placement] at placed
  split at placed
  · cases placed
    decide
  · obtain ⟨f, -, rfl⟩ := map_eq_ok_iff.mp placed
    exact isVisible_fitText f

/-- The document of a drawing is ASCII if the sizes and the colour of its canvas are. -/
theorem isAscii_svgElement {canvas : Canvas} {fit : String} {polylines : List (List (Point Float))}
    (width : IsAscii canvas.width.text.toList) (height : IsAscii canvas.height.text.toList)
    (stroke : IsAscii canvas.stroke.toList) (fitted : IsAscii fit.toList) :
    IsAscii (svgElement canvas fit polylines).write := by
  refine Element.isAscii_node (by decide) ?_ (List.forall_mem_singleton.mpr ?_)
  · simp [Element.AsciiAttributes, width, height, svgSpace]
  · refine Element.isAscii_node (by decide) ?_ (List.forall_mem_map.mpr fun points _ => ?_)
    · refine List.forall_mem_append.mpr ⟨?_, ?_⟩
      · simp [penAttributes, stroke, (isVisible_coordinateText _).isAscii]
      · rw [fitAttributes]
        split
        · nofun
        · simp [fitted]
    · refine Element.isAscii_leaf (by decide) ?_
      simp [Element.AsciiAttributes, (isVisible_polylineText _).isAscii]

end Drawing

end GrowthGrammar
