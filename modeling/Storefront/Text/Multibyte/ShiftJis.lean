import Storefront.Text.Multibyte.Jisx0208
import Storefront.Text.Multibyte.Pairs

/-!
# Shift_JIS

Japanese in pairs of bytes beside the narrow katakana in one byte.
-/

namespace Storefront.Text.Multibyte

/-- The narrow katakana at a distance from the first. -/
def narrowKatakana (distance : Nat) : Char :=
  Char.ofNat (0xFF61 + distance)

namespace ShiftJis

/-- The first number of the places for private use, and how many there are. -/
def privateUse : Nat := 8836
def privateUseSize : Nat := 1880

/-- The character with a number, which may be for private use. -/
def char? (n : Nat) : Option Char :=
  if privateUse ≤ n && n < privateUse + privateUseSize then some (Char.ofNat (0xE000 + (n - privateUse)))
  else jisx0208.char? n

def isLead (b : UInt8) : Bool :=
  (0x81 ≤ b && b ≤ 0x9F) || (0xE0 ≤ b && b ≤ 0xFC)

/-- The number of a pair. -/
def number? (a b : UInt8) : Option Nat :=
  let row := a.toNat - (if a < 0xA0 then 0x81 else 0xC1)
  if 0x40 ≤ b && b ≤ 0x7E then some (row * 188 + (b.toNat - 0x40))
  else if 0x80 ≤ b && b ≤ 0xFC then some (row * 188 + (b.toNat - 0x41))
  else none

def pairs : Pairs where
  single? b :=
    if b == 0x80 then some '\x80'
    else if 0xA1 ≤ b && b ≤ 0xDF then some (narrowKatakana (b.toNat - 0xA1))
    else none
  isLead := isLead
  pair? a b := ((number? a b).bind char?).map ([·])

end ShiftJis

end Storefront.Text.Multibyte
