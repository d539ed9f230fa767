import Storefront.Text.Utf8

/-!
# UTF-16

Bytes that are units of 16 bits, two of which may make a character. Reading is lossy: a unit that lacks its
partner, and a byte that is left over, become a replacement character.
-/

namespace Storefront.Text.Utf16

/-- Bytes in pairs, and whether one is left over. The first byte of a pair is the high one if `bigEndian`. -/
def units (bigEndian : Bool) : List UInt8 → List Nat × Bool
  | [] => ([], false)
  | [_] => ([], true)
  | a :: b :: rest =>
    let (us, odd) := units bigEndian rest
    ((if bigEndian then a.toNat * 256 + b.toNat else b.toNat * 256 + a.toNat) :: us, odd)

def isHigh (u : Nat) : Bool :=
  0xD800 ≤ u && u < 0xDC00

def isLow (u : Nat) : Bool :=
  0xDC00 ≤ u && u < 0xE000

/-- The characters of units; `high` is a first unit that waits for its partner. -/
def charsFrom : Option Nat → List Nat → List Char × Bool
  | high, [] => ([], high.isSome)
  | none, u :: us =>
    if isHigh u then charsFrom (some u) us
    else
      let (cs, waits) := charsFrom none us
      ((if isLow u then replacement else Char.ofNat u) :: cs, waits)
  | some high, u :: us =>
    if isLow u then
      let (cs, waits) := charsFrom none us
      (Char.ofNat ((high - 0xD800) * 0x400 + (u - 0xDC00) + 0x10000) :: cs, waits)
    else
      let (cs, waits) := if isHigh u then charsFrom (some u) us else
        let (cs, waits) := charsFrom none us
        (Char.ofNat u :: cs, waits)
      (replacement :: cs, waits)

/-- The text that bytes spell. Whatever is unfinished at the end is one replacement character. -/
def decode (bigEndian : Bool) (bs : List UInt8) : List Char :=
  let (us, odd) := units bigEndian bs
  let (cs, unfinished) := charsFrom none us
  cs ++ if odd || unfinished then [replacement] else []

end Storefront.Text.Utf16
