import GrowthGrammar.CommandLine.Program
import GrowthGrammar.Proofs.Decimal.Overflow
import GrowthGrammar.Proofs.Drawing.Ascii

/-!
# Errors that escape the program

The program reports errors of the library and lets every other one escape (`Escapes`).  Here is
which errors of the stages that draw and write escape.

* A drawing of a graph is always made (`exists_ofPath`).
* A document cannot be made on a canvas that is unfit for the path (`Drawing.Canvas.IsUnfitFor`): a
  side of it is no number, or too large for the doubles that the path is placed with.
* A file cannot be asked for if the text of its path has no bytes or a zero among them
  (`FilePath.IsNameable`).  Every other failure of the file system is an error of the library.
-/

namespace GrowthGrammar

namespace CommandLine

variable {α β : Type}

/-- The outcome is an error that the program does not report. -/
def Escapes (outcome : Except Error α) : Prop :=
  ∃ e, outcome = .error e ∧ isReported e.kind = false

@[simp]
theorem not_escapes_ok (a : α) : ¬ Escapes (.ok a) := nofun

@[simp]
theorem escapes_error_iff (e : Error) :
    Escapes (.error e : Except Error α) ↔ isReported e.kind = false := by
  simp [Escapes]

theorem escapes_bind_iff (x : Except Error α) (f : α → Except Error β) :
    Escapes (x >>= f) ↔ Escapes x ∨ ∃ a, x = .ok a ∧ Escapes (f a) := by
  cases x with
  | ok a => simp [bind, Except.bind]
  | error e => simp [bind, Except.bind]

theorem escapes_map_iff (x : Except Error α) (f : α → β) : Escapes (x.map f) ↔ Escapes x := by
  cases x with
  | ok a => simp [Except.map]
  | error e => simp [Except.map]

/-! ## Overflow -/

/-- The outcome is an overflow under a condition, and a value otherwise. -/
def OverflowsIff (P : Prop) (outcome : Except Error α) : Prop :=
  P ∧ outcome = .error .overflow ∨ ¬ P ∧ ∃ a, outcome = .ok a

namespace OverflowsIff

variable {P Q : Prop} {outcome : Except Error α}

theorem of_ok (never : ¬ P) (a : α) : OverflowsIff P (.ok a) := .inr ⟨never, a, rfl⟩

theorem congr (overflows : OverflowsIff P outcome) (same : P ↔ Q) : OverflowsIff Q outcome :=
  propext same ▸ overflows

/-- Of two stages, the second one comes after a value only. -/
theorem bind (first : OverflowsIff P outcome) {f : α → Except Error β}
    (second : ∀ a, OverflowsIff Q (f a)) : OverflowsIff (P ∨ Q) (outcome >>= f) := by
  rcases first with ⟨holds, rfl⟩ | ⟨never, a, rfl⟩
  · exact .inl ⟨.inl holds, rfl⟩
  · exact (second a).congr (or_iff_right never).symm

theorem map (overflows : OverflowsIff P outcome) (f : α → β) : OverflowsIff P (outcome.map f) := by
  rcases overflows with ⟨holds, rfl⟩ | ⟨never, a, rfl⟩
  · exact .inl ⟨holds, rfl⟩
  · exact .of_ok never (f a)

theorem escapes_iff (overflows : OverflowsIff P outcome) : Escapes outcome ↔ P := by
  rcases overflows with ⟨holds, rfl⟩ | ⟨never, a, rfl⟩
  · exact iff_of_true ⟨.overflow, rfl, rfl⟩ holds
  · exact iff_of_false (not_escapes_ok a) never

end OverflowsIff

end CommandLine

open CommandLine

/-! ## Graphs -/

namespace Graph

variable {precision : Int}

theorem exists_keyOf (behind : 0 ≤ precision) (p : Point Float) :
    ∃ key, keyOf precision p = .ok key := by
  obtain ⟨x, roundX⟩ := Decimal.exists_roundTo behind p.x
  obtain ⟨y, roundY⟩ := Decimal.exists_roundTo behind p.y
  exact ⟨_, by rw [keyOf, roundX, roundY]⟩

theorem Draft.exists_insertFrom [Ruler] (behind : 0 ≤ precision) (order : Nat) (d : Draft)
    (path : Path Float) : ∃ after, d.insertFrom precision order path = .ok after := by
  induction path generalizing order d with
  | nil => exact ⟨d, rfl⟩
  | cons e rest ih =>
    obtain ⟨start, keyStart⟩ := exists_keyOf behind e.start
    obtain ⟨stop, keyStop⟩ := exists_keyOf behind e.stop
    obtain ⟨after, inserted⟩ := ih (order + 1) (((d.node start).2.node stop).2.link
      ⟨(d.node start).1, ((d.node start).2.node stop).1, order, e.length⟩)
    refine ⟨after, ?_⟩
    rw [insertFrom, insert, keyStart, keyStop]
    exact inserted

/-- Every path has a graph whose points are rounded behind the point. -/
theorem exists_ofPath [Ruler] (behind : 0 ≤ precision) (path : Path Float) :
    ∃ g, ofPath precision path = .ok g := by
  obtain ⟨d, inserted⟩ := Draft.exists_insertFrom behind 0 Draft.empty path
  exact ⟨d.graph, by rw [ofPath, inserted]; rfl⟩

end Graph

/-! ## Sizes -/

namespace Size

open Decimal.Binary64 (overflowBound quotientBits infinityBits ofInt?
  quotientBits_natAbs_eq_infinityBits_iff)

/-- The size is a number. -/
def IsNumber : Size → Prop
  | .other _ => False
  | _ => True

/-- The size is a number that is not zero or less. -/
def IsPositive (s : Size) : Prop := s.isEmpty = .ok false

/-- The size is a whole number that is at least as far from zero as the bound. -/
def IsBeyond (bound : Nat) : Size → Prop
  | .whole n => bound ≤ n.natAbs
  | _ => False

/-- The size is too large to be the size of a side of some length.  For a side without length only
half of the size has to be a double. -/
def IsTooLargeFor (s : Size) (length : Float) : Prop :=
  s.IsBeyond (if 0 < length then overflowBound else 2 * overflowBound)

variable {s : Size}

theorem isEmpty_of_not_isNumber (none : ¬ s.IsNumber) : s.isEmpty = .error .wrongType := by
  cases s with
  | other text => rfl
  | _ => exact absurd trivial none

theorem exists_isEmpty (number : s.IsNumber) : ∃ flat, s.isEmpty = .ok flat := by
  cases s with
  | other text => exact number.elim
  | _ => exact ⟨_, rfl⟩

theorem IsPositive.isNumber (positive : s.IsPositive) : s.IsNumber := by
  cases s with
  | other text => cases positive
  | _ => trivial

theorem isBeyond_mono {low high : Nat} (le : low ≤ high) (beyond : s.IsBeyond high) :
    s.IsBeyond low := by
  cases s with
  | whole n => exact le.trans beyond
  | _ => exact beyond

theorem isTooLargeFor_iff (s : Size) (length : Float) : s.IsTooLargeFor length ↔
    (0 < length ∧ s.IsBeyond overflowBound) ∨ s.IsBeyond (2 * overflowBound) := by
  have double : s.IsBeyond (2 * overflowBound) → s.IsBeyond overflowBound :=
    isBeyond_mono (Nat.le_mul_of_pos_left _ (by decide))
  rw [IsTooLargeFor]
  split
  case isTrue long =>
    simp only [long, true_and]
    exact ⟨.inl, fun either => either.elim id double⟩
  case isFalse short => simp [short]

theorem IsTooLargeFor.isBeyond {length : Float} (large : s.IsTooLargeFor length) :
    s.IsBeyond overflowBound :=
  ((isTooLargeFor_iff s length).mp large).elim And.right
    (isBeyond_mono (Nat.le_mul_of_pos_left _ (by decide)))

/-- A number can be written unless it is a whole one with too many digits. -/
theorem isWritable_iff (number : s.IsNumber) :
    s.isWritable = true ↔ ¬ s.IsBeyond (10 ^ Decimal.maxDigits) := by
  cases s with
  | other d => exact number.elim
  | whole n => rw [isWritable, Decimal.Binary64.isWritable_iff, IsBeyond, not_le]
  | _ => exact iff_of_true rfl id

/-- A size with too many digits is too large for every side. -/
theorem isTooLargeFor_of_isBeyond (beyond : s.IsBeyond (10 ^ Decimal.maxDigits)) (length : Float) :
    s.IsTooLargeFor length :=
  (isTooLargeFor_iff s length).mpr
    (.inr (isBeyond_mono Decimal.Binary64.two_mul_overflowBound_le beyond))

theorem toFloat_overflowsIff (number : s.IsNumber) :
    OverflowsIff (s.IsBeyond overflowBound) s.toFloat := by
  cases s with
  | other text => exact number.elim
  | truth b => exact .of_ok id _
  | real x => exact .of_ok id _
  | whole n =>
    have overflows := quotientBits_natAbs_eq_infinityBits_iff n Nat.one_pos
    rw [Nat.one_mul] at overflows
    rw [toFloat, ofInt?, IsBeyond, ← overflows]
    by_cases beyond : quotientBits n.natAbs 1 = infinityBits
    · exact .inl ⟨beyond, by rw [if_pos beyond]⟩
    · exact .inr ⟨beyond, _, by rw [if_neg beyond]⟩

theorem half_overflowsIff (number : s.IsNumber) :
    OverflowsIff (s.IsBeyond (2 * overflowBound)) s.half := by
  cases s with
  | other text => exact number.elim
  | truth b => exact .of_ok id _
  | real x => exact .of_ok id _
  | whole n =>
    rw [half, IsBeyond, ← quotientBits_natAbs_eq_infinityBits_iff n two_pos]
    by_cases beyond : quotientBits n.natAbs 2 = infinityBits
    · exact .inl ⟨beyond, if_pos beyond⟩
    · exact .inr ⟨beyond, _, if_neg beyond⟩

theorem isVisible_text (number : s.IsNumber) : Text.IsVisible s.text.toList := by
  cases s with
  | other text => exact number.elim
  | whole n => exact Decimal.isVisible_toString n
  | real x => exact Decimal.isVisible_exact x
  | truth b => cases b <;> decide

end Size

/-! ## Documents -/

namespace Fit

open Decimal.Binary64 (overflowBound)

variable {width height : Size}

theorem sizeFor_overflowsIff {s : Size} (number : s.IsNumber) (length : Float) :
    OverflowsIff (0 < length ∧ s.IsBeyond overflowBound) (sizeFor s length) := by
  rw [sizeFor]
  split
  case isTrue long => exact (s.toFloat_overflowsIff number).congr (by simp [long])
  case isFalse short => exact .of_ok (fun both => short both.1) 1

/-- A box can be fitted onto a canvas unless one of its sizes is too large. -/
theorem onCanvas_overflowsIff (wide : width.IsNumber) (high : height.IsNumber) (b : Bounds Float) :
    OverflowsIff (width.IsTooLargeFor b.width ∨ height.IsTooLargeFor b.height)
      (onCanvas width height b) := by
  have stages := (sizeFor_overflowsIff wide b.width).bind fun w =>
    (sizeFor_overflowsIff high b.height).bind fun h =>
      (Size.half_overflowsIff wide).bind fun x =>
        (Size.half_overflowsIff high).bind fun y =>
          OverflowsIff.of_ok not_false
            (⟨⟨x, y⟩, scaleOf w h b, b.center⟩ : Fit Float)
  refine stages.congr ?_
  rw [Size.isTooLargeFor_iff, Size.isTooLargeFor_iff, or_false, ← or_assoc, or_or_or_comm]

end Fit

namespace Drawing

/-- The sizes of the canvas have few enough digits to be written. -/
def Canvas.IsWritable (c : Canvas) : Prop :=
  c.width.isWritable = true ∧ c.height.isWritable = true

instance (c : Canvas) : Decidable c.IsWritable := inferInstanceAs (Decidable (_ ∧ _))

/-- A document of the path cannot be made on the canvas, and not because the canvas has no area. -/
inductive Canvas.IsUnfitFor (c : Canvas) (path : Path Float) : Prop
  /-- The width is no number. -/
  | width (noNumber : ¬ c.width.IsNumber)
  /-- The height is no number, and is looked at. -/
  | height (wide : c.width.IsPositive) (noNumber : ¬ c.height.IsNumber)
  /-- A size has too many digits, and is shown in a message or written. -/
  | digits (wide : c.width.IsNumber) (high : c.width.IsPositive → c.height.IsNumber)
      (long : ¬ c.IsWritable)
  /-- The path does not fit with doubles. -/
  | tooLarge (wide : c.width.IsPositive) (high : c.height.IsPositive) {b : Bounds Float}
      (bounds : path.bounds? = some b)
      (large : c.width.IsTooLargeFor b.width ∨ c.height.IsTooLargeFor b.height)

variable {width height : Size}

/-- The height is looked at only if the width is above zero. -/
theorem checkArea_of_isEmpty {flat : Bool} (found : width.isEmpty = .ok flat) :
    checkArea width height =
      if flat then .error (noArea width height)
      else height.isEmpty >>= fun flat =>
        if flat then .error (noArea width height) else .ok () := by
  rw [checkArea, found]
  cases flat <;> rfl

theorem checkArea_eq_ok_iff (width height : Size) :
    checkArea width height = .ok () ↔ width.IsPositive ∧ height.IsPositive := by
  rw [Size.IsPositive, Size.IsPositive]
  cases found : width.isEmpty with
  | error e => simp [checkArea, found, bind, Except.bind]
  | ok flat =>
    rw [checkArea_of_isEmpty found]
    cases flat with
    | true => simp
    | false =>
      cases height.isEmpty with
      | error e => simp [bind, Except.bind]
      | ok flat => cases flat <;> simp [bind, Except.bind]

theorem isReported_noArea (width height : Size) :
    isReported (noArea width height).kind = (width.isWritable && height.isWritable) := by
  rw [noArea]
  cases width.isWritable && height.isWritable <;> rfl

/-- A size that is no number, or has too many digits for the message, is no reported fault. -/
theorem escapes_checkArea_iff (width height : Size) : Escapes (checkArea width height) ↔
    ¬ width.IsNumber ∨ (width.IsPositive ∧ ¬ height.IsNumber) ∨
      (width.IsNumber ∧ (width.IsPositive → height.IsNumber) ∧
        ¬ (width.IsPositive ∧ height.IsPositive) ∧
        ¬ (width.isWritable = true ∧ height.isWritable = true)) := by
  have reported := isReported_noArea width height
  by_cases wide : width.IsNumber
  case neg =>
    refine iff_of_true ⟨.wrongType, ?_, rfl⟩ (.inl wide)
    rw [checkArea, Size.isEmpty_of_not_isNumber wide]
    rfl
  case pos =>
    obtain ⟨flat, found⟩ := Size.exists_isEmpty wide
    rw [checkArea_of_isEmpty found, Size.IsPositive, found]
    cases flat with
    | true => simp [wide, reported]
    | false =>
      by_cases high : height.IsNumber
      · obtain ⟨flat, found⟩ := Size.exists_isEmpty high
        cases flat <;>
          simp [found, wide, high, reported, Size.IsPositive, bind, Except.bind]
      · have refused := Size.isEmpty_of_not_isNumber high
        simp [refused, wide, high, bind, Except.bind, isReported, Error.kind]

theorem checkDigits_eq (canvas : Canvas) : checkDigits canvas.width canvas.height =
    if canvas.IsWritable then .ok () else .error (.value .unwritable) :=
  if_congr (Bool.and_eq_true _ _).to_iff rfl rfl

theorem escapes_checkDigits_iff (canvas : Canvas) :
    Escapes (checkDigits canvas.width canvas.height) ↔ ¬ canvas.IsWritable := by
  rw [checkDigits_eq]
  by_cases writable : canvas.IsWritable <;> simp [writable, isReported, Error.kind]

theorem placement_overflowsIff (wide : width.IsNumber) (high : height.IsNumber)
    (path : Path Float) :
    OverflowsIff (∃ b, path.bounds? = some b ∧
      (width.IsTooLargeFor b.width ∨ height.IsTooLargeFor b.height))
      (placement path width height) := by
  rw [placement]
  cases path.bounds? with
  | none => exact .of_ok (by simp) _
  | some b =>
    exact ((Fit.onCanvas_overflowsIff wide high b).map fitText).congr (by simp)

/-- The document of a path is made, or a reported error tells why not, on every canvas that is not
unfit for the path. -/
theorem escapes_svg_iff (canvas : Canvas) (path : Path Float) :
    Escapes (svg canvas path) ↔ canvas.IsUnfitFor path := by
  rw [svg, escapes_map_iff, svgOf, escapes_bind_iff, escapes_checkArea_iff]
  have placed (wide : canvas.width.IsPositive) (high : canvas.height.IsPositive) :=
    placement_overflowsIff wide.isNumber high.isNumber path
  constructor
  · rintro ((noNumber | ⟨wide, noNumber⟩ | ⟨wide, high, -, long⟩) | ⟨⟨⟩, area, escapes⟩)
    · exact .width noNumber
    · exact .height wide noNumber
    · exact .digits wide high long
    · obtain ⟨wide, high⟩ := (checkArea_eq_ok_iff _ _).mp area
      obtain escapes | ⟨fit, -, escapes⟩ := (escapes_bind_iff _ _).mp escapes
      · obtain ⟨b, bounds, large⟩ := (placed wide high).escapes_iff.mp escapes
        exact .tooLarge wide high bounds large
      · obtain long | ⟨_, -, escapes⟩ := (escapes_bind_iff _ _).mp escapes
        · exact .digits wide.isNumber (fun _ => high.isNumber) ((escapes_checkDigits_iff _).mp long)
        · exact absurd escapes (not_escapes_ok _)
  · rintro (noNumber | ⟨wide, noNumber⟩ | ⟨wide, high, long⟩ | ⟨wide, high, bounds, large⟩)
    · exact .inl (.inl noNumber)
    · exact .inl (.inr (.inl ⟨wide, noNumber⟩))
    · by_cases area : canvas.width.IsPositive ∧ canvas.height.IsPositive
      · refine .inr ⟨(), (checkArea_eq_ok_iff _ _).mpr area, (escapes_bind_iff _ _).mpr ?_⟩
        rcases placed area.1 area.2 with ⟨-, fails⟩ | ⟨-, fit, fits⟩
        · exact .inl (fails ▸ ⟨.overflow, rfl, rfl⟩)
        · exact .inr ⟨fit, fits, (escapes_bind_iff _ _).mpr
            (.inl ((escapes_checkDigits_iff _).mpr long))⟩
      · exact .inl (.inr (.inr ⟨wide, high, area, long⟩))
    · exact .inr ⟨(), (checkArea_eq_ok_iff _ _).mpr ⟨wide, high⟩,
        (escapes_bind_iff _ _).mpr (.inl ((placed wide high).escapes_iff.mpr ⟨_, bounds, large⟩))⟩

/-- The document of a path is ASCII if the colour of the canvas is. -/
theorem isAscii_svg {canvas : Canvas} {path : Path Float} {text : String}
    (stroke : Text.IsAscii canvas.stroke.toList) (made : svg canvas path = .ok text) :
    Text.IsAscii text.toList := by
  obtain ⟨element, drawn, rfl⟩ := map_eq_ok_iff.mp made
  obtain ⟨⟨⟩, area, fitted⟩ := ok_of_except_bind drawn
  obtain ⟨fit, placed, fitted⟩ := ok_of_except_bind fitted
  obtain ⟨⟨⟩, -, same⟩ := ok_of_except_bind fitted
  cases same
  obtain ⟨wide, high⟩ := (checkArea_eq_ok_iff _ _).mp area
  rw [Element.document, String.toList_ofList]
  exact isAscii_svgElement (Size.isVisible_text wide.isNumber).isAscii
    (Size.isVisible_text high.isNumber).isAscii stroke (isVisible_placement placed).isAscii

end Drawing

/-! ## Files -/

/-- The system can be asked for the path: its text has bytes, and no zero among them. -/
structure FilePath.IsNameable (p : FilePath) : Prop where
  encodable : Text.hasLooseHalf p.text.toList = false
  noZero : '\x00' ∉ p.text.toList

namespace FilePath

theorem checkText_of_isNameable {p : FilePath} (nameable : p.IsNameable) :
    p.checkText = .ok () := by
  rw [checkText]
  simp [nameable.encodable, nameable.noZero]

theorem escapes_checkText_iff (p : FilePath) : Escapes p.checkText ↔ ¬ p.IsNameable := by
  by_cases nameable : p.IsNameable
  · simp [checkText_of_isNameable nameable, nameable]
  · refine iff_of_true ?_ nameable
    rw [checkText]
    split
    · exact ⟨_, rfl, rfl⟩
    case isFalse encodable =>
      have zero : '\x00' ∈ p.text.toList := by
        by_contra noZero
        exact nameable ⟨by simpa using encodable, noZero⟩
      rw [if_pos (by simpa using zero)]
      exact ⟨_, rfl, rfl⟩

end FilePath

namespace FileTree

variable {tree : FileTree} {use : FileUse} {shown : String} {path : FilePath}

theorem not_escapes_mapError_file {α : Type} (outcome : Except FileFault α) :
    ¬ Escapes (outcome.mapError (.file use shown)) := by
  cases outcome with
  | ok a => exact not_escapes_ok a
  | error fault => simp [Except.mapError, isReported, Error.kind]

theorem escapes_load_iff : Escapes (tree.load use shown path) ↔ ¬ path.IsNameable := by
  rw [load, escapes_bind_iff, FilePath.escapes_checkText_iff]
  simp [not_escapes_mapError_file]

/-- The text of a file is asked for whole, so it has bytes. -/
theorem escapes_save_iff {text : String} (whole : Text.IsWhole text.toList) :
    Escapes (tree.save use shown path text) ↔ ¬ path.IsNameable := by
  rw [save, escapes_bind_iff, FilePath.escapes_checkText_iff]
  simp [not_escapes_mapError_file, whole.hasHalf_eq_false]

end FileTree

end GrowthGrammar
