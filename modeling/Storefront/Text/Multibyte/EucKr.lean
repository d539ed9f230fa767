import Storefront.Text.Multibyte.Ksx1001
import Storefront.Text.Multibyte.Pairs

/-!
# EUC-KR

Korean in pairs of bytes: the standard set, and in places of their own all other syllables in order.
-/

namespace Storefront.Text.Multibyte.EucKr

/-- The syllables that the standard set does not have, in order. -/
def syllables : Array Char :=
  ksx1001.missing 0xAC00 0x2BA4

/-- The place of a second byte among those of the syllables: the letters of ASCII and the bytes from `0x81` on. -/
def column? (b : UInt8) : Option Nat :=
  if 0x41 ≤ b && b ≤ 0x5A then some (b.toNat - 0x41)
  else if 0x61 ≤ b && b ≤ 0x7A then some (b.toNat - 0x61 + 26)
  else if 0x81 ≤ b && b ≤ 0xFE then some (b.toNat - 0x81 + 52)
  else none

/-- The columns of a row of syllables, and of one beside the standard set. -/
def columns : Nat := 178
def narrowColumns : Nat := 84

def char? (a b : UInt8) : Option Char := do
  let column ← column? b
  if a < 0xA1 then syllables[(a.toNat - 0x81) * columns + column]?
  else if column < narrowColumns then syllables[32 * columns + (a.toNat - 0xA1) * narrowColumns + column]?
  else ksx1001.char? ((a.toNat - 0xA1) * 94 + (column - narrowColumns))

def pairs : Pairs where
  single? _ := none
  isLead b := 0x81 ≤ b && b ≤ 0xFE
  pair? a b := (char? a b).map ([·])

end Storefront.Text.Multibyte.EucKr
