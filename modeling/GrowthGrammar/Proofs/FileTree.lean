import GrowthGrammar.FileTree
import GrowthGrammar.Proofs.Rule.Grammar

/-!
# Writing one file

Writing a file changes what is at the place of its path and nothing else (`FileTree.HasWritten`).
Main statement: a text that is saved is all that has been written (`hasWritten_of_save`).
-/

namespace GrowthGrammar.FileTree

/-- The file at the place of a path has the bytes, and everything else is as it was. -/
structure HasWritten (before : FileTree) (path : FilePath) (bytes : List UInt8)
    (after : FileTree) : Prop where
  written : ∃ place, before.placeOf path = .ok place ∧ after.bytes? place = some bytes ∧
    ∀ other, other ≠ place → after.bytes? other = before.bytes? other
  directories : after.directories = before.directories

variable {place other : Place} {bytes : List UInt8} {files : List (Place × List UInt8)}

theorem find?_setFile (place : Place) (bytes : List UInt8) (files : List (Place × List UInt8)) :
    (setFile place bytes files).find? (fun f => f.1 == place) = some (place, bytes) := by
  induction files with
  | nil => simp [setFile]
  | cons f rest ih =>
    rw [setFile]
    split
    case isTrue => simp
    case isFalse there => simp [there, ih]

theorem find?_setFile_of_ne (different : other ≠ place) :
    (setFile place bytes files).find? (fun f => f.1 == other) =
      files.find? (fun f => f.1 == other) := by
  induction files with
  | nil => simp [setFile, Ne.symm different]
  | cons f rest ih =>
    rw [setFile]
    split
    case isTrue here =>
      obtain rfl : f.1 = place := by simpa using here
      simp [Ne.symm different]
    case isFalse => rw [List.find?_cons, List.find?_cons, ih]

variable {before after : FileTree} {path : FilePath}

theorem hasWritten_of_write (written : before.write path bytes = .ok after) :
    before.HasWritten path bytes after := by
  obtain ⟨place, found, written⟩ := ok_of_except_bind written
  split at written
  · cases written
  · cases written
    refine ⟨⟨place, found, ?_, fun other different => ?_⟩, rfl⟩
    · rw [bytes?, find?_setFile]
      rfl
    · rw [bytes?, find?_setFile_of_ne different, bytes?]

/-- A text that is saved is written with its bytes, and nothing else is written. -/
theorem hasWritten_of_save {use : FileUse} {shown text : String}
    (saved : before.save use shown path text = .ok after) :
    before.HasWritten path (Text.encode text) after := by
  obtain ⟨-, -, saved⟩ := ok_of_except_bind saved
  obtain ⟨tree, written, saved⟩ := ok_of_except_bind saved
  split at saved
  · cases saved
  · cases saved
    exact hasWritten_of_write (mapError_eq_ok_iff.mp written)

end GrowthGrammar.FileTree
