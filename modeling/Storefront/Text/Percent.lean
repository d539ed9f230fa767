import Storefront.Text.Hex
import Storefront.Text.Utf8

/-!
# Percent-encoding

A byte that may not stand for itself is written as a percent sign and two upper-case hexadecimal digits.
-/

namespace Storefront.Text.Percent

def escape (b : UInt8) : List Char :=
  ['%', hexDigit (b.toNat / 16), hexDigit (b.toNat % 16)]

/-- The text of bytes in which only ASCII bytes that satisfy `keep` stand for themselves. -/
def encodeBytes (keep : Char → Bool) (bs : List UInt8) : List Char :=
  bs.flatMap fun b =>
    if b < 0x80 && keep (Char.ofNat b.toNat) then [Char.ofNat b.toNat] else escape b

def encode (keep : Char → Bool) (cs : List Char) : List Char :=
  encodeBytes keep (utf8 cs)

/-- An escape becomes its byte; a percent sign without two digits stands for itself. -/
def decode : List UInt8 → List UInt8
  | 0x25 :: h :: l :: rest =>
    match hexValue (Char.ofNat h.toNat), hexValue (Char.ofNat l.toNat) with
    | some hi, some lo => UInt8.ofNat (hi * 16 + lo) :: decode rest
    | _, _ => 0x25 :: decode (h :: l :: rest)
  | b :: rest => b :: decode rest
  | [] => []

end Storefront.Text.Percent
