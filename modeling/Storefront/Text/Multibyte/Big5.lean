import Storefront.Text.Multibyte.Big5Characters
import Storefront.Text.Multibyte.Pairs

/-!
# Big5

Traditional Chinese in pairs of bytes.
-/

namespace Storefront.Text.Multibyte.Big5

/-- The number of a pair. -/
def number? (a b : UInt8) : Option Nat :=
  let row := a.toNat - 0x81
  if 0x40 ≤ b && b ≤ 0x7E then some (row * 157 + (b.toNat - 0x40))
  else if 0xA1 ≤ b && b ≤ 0xFE then some (row * 157 + (b.toNat - 0x62))
  else none

/-- What a number stands for: a character, or in four places a letter with a mark. -/
def text? (n : Nat) : Option (List Char) :=
  match n with
  | 1133 => some ['Ê', '\u0304']
  | 1135 => some ['Ê', '\u030C']
  | 1164 => some ['ê', '\u0304']
  | 1166 => some ['ê', '\u030C']
  | n => (big5Characters.char? n).map ([·])

def pairs : Pairs where
  single? _ := none
  isLead b := 0x81 ≤ b && b ≤ 0xFE
  pair? a b := (number? a b).bind text?

end Storefront.Text.Multibyte.Big5
