import GrowthGrammar.Text.Halves

/-!
# UTF-8

`decodeUtf8` reads bytes as UTF-8.  The first byte of a character says how many
follow, and the second one is held to a narrower range after some first bytes,
so that there is no overlong form, no half of a character and nothing above the
last code point.  A failure names its cause and the offset of the character's
first byte.

Names that the system gives are bytes too, but any bytes will do.  `decodeName`
keeps a byte that is no part of a character as half a character, and `encode`
writes that half as the byte again.  Names of the same bytes are one name
(`nameForm`).
-/

namespace GrowthGrammar.Text

/-- Why some bytes are not UTF-8. -/
inductive Utf8Fault
  /-- A byte that begins no character. -/
  | startByte
  /-- A byte that cannot follow the ones before it. -/
  | continuationByte
  /-- The bytes end inside a character. -/
  | endOfData
  deriving DecidableEq, Repr

/-- The wording of a fault. -/
def Utf8Fault.reason : Utf8Fault → String
  | .startByte => "invalid start byte"
  | .continuationByte => "invalid continuation byte"
  | .endOfData => "unexpected end of data"

/-- The number of bytes after a first byte, and the range of the second one. -/
def utf8Shape (first : Nat) : Option (Nat × Nat × Nat) :=
  if first < 0x80 then some (0, 0, 0)
  else if first < 0xc2 then none
  else if first < 0xe0 then some (1, 0x80, 0xbf)
  else if first == 0xe0 then some (2, 0xa0, 0xbf)
  else if first == 0xed then some (2, 0x80, 0x9f)
  else if first < 0xf0 then some (2, 0x80, 0xbf)
  else if first == 0xf0 then some (3, 0x90, 0xbf)
  else if first < 0xf4 then some (3, 0x80, 0xbf)
  else if first == 0xf4 then some (3, 0x80, 0x8f)
  else none

/-- The bytes that follow a first byte, the next of them between `low` and
`high`, and the bytes left over. -/
def utf8Tail (count low high code : Nat) (bytes : List Nat) :
    Except Utf8Fault (Nat × List Nat) :=
  match count with
  | 0 => .ok (code, bytes)
  | count + 1 =>
    match bytes with
    | [] => .error .endOfData
    | b :: rest =>
      if low ≤ b && b ≤ high then utf8Tail count 0x80 0xbf (code * 64 + b % 64) rest
      else .error .continuationByte

/-- The part of a first byte that belongs to the code point. -/
def utf8Lead (first following : Nat) : Nat :=
  match following with
  | 0 => first
  | 1 => first % 32
  | 2 => first % 16
  | _ => first % 8

/-- The code point that some bytes begin with, the number of bytes after its first
one, and the bytes left over. -/
def decodeOne (first : Nat) (rest : List Nat) : Except Utf8Fault (Nat × Nat × List Nat) :=
  match utf8Shape first with
  | none => .error .startByte
  | some (following, low, high) =>
    (utf8Tail following low high (utf8Lead first following) rest).map fun (code, left) =>
      (code, following, left)

/-- Read at most `fuel` characters, the first one at the given offset. -/
def decodeUtf8From (fuel offset : Nat) (bytes : List Nat) :
    Except (Utf8Fault × Nat) (List Char) :=
  match fuel, bytes with
  | 0, _ => .ok []
  | _, [] => .ok []
  | fuel + 1, first :: rest =>
    match decodeOne first rest with
    | .error fault => .error (fault, offset)
    | .ok (code, following, left) =>
      (decodeUtf8From fuel (offset + 1 + following) left).map (Char.ofNat code :: ·)

/-- The characters of some bytes, or the first fault and its offset. -/
def decodeUtf8 (bytes : List UInt8) : Except (Utf8Fault × Nat) (List Char) :=
  decodeUtf8From bytes.length 0 (bytes.map UInt8.toNat)

/-! ## Writing -/

/-- The bytes of a code point.  A half that keeps a byte is that byte. -/
def encodeOne (n : Nat) : List UInt8 :=
  if holdsByte n then [UInt8.ofNat (n - 0xdc00)]
  else if n < 0x80 then [UInt8.ofNat n]
  else if n < 0x800 then [UInt8.ofNat (0xc0 + n / 64), UInt8.ofNat (0x80 + n % 64)]
  else if n < 0x10000 then
    [UInt8.ofNat (0xe0 + n / 4096), UInt8.ofNat (0x80 + n / 64 % 64), UInt8.ofNat (0x80 + n % 64)]
  else
    [UInt8.ofNat (0xf0 + n / 262144), UInt8.ofNat (0x80 + n / 4096 % 64),
      UInt8.ofNat (0x80 + n / 64 % 64), UInt8.ofNat (0x80 + n % 64)]

/-- The bytes of a text. -/
def encode (text : String) : List UInt8 :=
  (codePoints text.toList).flatMap encodeOne

/-! ## Names -/

/-- The code points of at most `fuel` characters and loose bytes. -/
def decodeNameFrom (fuel : Nat) (bytes : List Nat) : List Nat :=
  match fuel, bytes with
  | 0, _ => []
  | _, [] => []
  | fuel + 1, first :: rest =>
    match decodeOne first rest with
    | .error _ => (0xdc00 + first) :: decodeNameFrom fuel rest
    | .ok (code, _, left) => code :: decodeNameFrom fuel left

/-- The text of a name with some bytes. -/
def decodeName (bytes : List UInt8) : String :=
  String.ofList (ofCodePoints (decodeNameFrom bytes.length (bytes.map UInt8.toNat)))

/-- A name as it is read back from its bytes. -/
def nameForm (name : String) : String := decodeName (encode name)

/-! ## Tests -/

example : decodeUtf8 [0x46, 0xc3, 0xa9] = .ok ['F', 'é'] := by rfl
example : decodeUtf8 [0x46, 0xc3] = .error (.endOfData, 1) := by rfl
example : decodeUtf8 [0xed, 0xa0, 0x80] = .error (.continuationByte, 0) := by rfl
example : decodeUtf8 [0xf5] = .error (.startByte, 0) := by rfl
example : encode "aé🌱" = [0x61, 0xc3, 0xa9, 0xf0, 0x9f, 0x8c, 0xb1] := by decide
example : decodeNameFrom 3 [0xe9, 0xc3, 0xa9] = [0xdce9, 0xe9] := by decide

end GrowthGrammar.Text
