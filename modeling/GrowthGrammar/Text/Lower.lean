/-!
# Lower case

`lower` takes the capital letters of ASCII and of the western European letters
after it to their small ones.  Two signs are letters as well: the one for kelvins
is a K, and the one for angstroms an A with a ring.
-/

namespace GrowthGrammar.Text

/-- A letter in lower case, any other character as it is. -/
def lower (c : Char) : Char :=
  let n := c.toNat
  if n == 0x212a then 'k'
  else if n == 0x212b then 'å'
  else if 0xc0 ≤ n && n ≤ 0xde && n != 0xd7 then Char.ofNat (n + 0x20)
  else c.toLower

/-! ## Tests -/

example : ['F', 'É', '×', '7', '\u212a'].map lower = ['f', 'é', '×', '7', 'k'] := by decide

end GrowthGrammar.Text
