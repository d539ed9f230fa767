import Storefront.Text.Multibyte.Front

/-!
# Characters of one byte or two

Encodings in which ASCII stands for itself and a leading byte takes the next one with it.
-/

namespace Storefront.Text.Multibyte

structure Pairs where
  /-- The bytes from `0x80` on that are characters by themselves. -/
  single? : UInt8 → Option Char
  isLead : UInt8 → Bool
  /-- What two bytes stand for. -/
  pair? : UInt8 → UInt8 → Option (List Char)

namespace Pairs

def front (p : Pairs) (a : UInt8) (rest : List UInt8) : Front :=
  if a < 0x80 then .char (Char.ofNat a.toNat) 0
  else if !p.isLead a then .char ((p.single? a).getD replacement) 0
  else
    match rest with
    | [] => .bad 0
    | b :: _ =>
      match p.pair? a b with
      | some cs => ⟨cs, 1⟩
      | none => .broken b 0

def decode (p : Pairs) : List UInt8 → List Char :=
  decodeFronts p.front

end Pairs

end Storefront.Text.Multibyte
