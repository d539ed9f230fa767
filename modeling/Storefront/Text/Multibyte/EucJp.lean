import Storefront.Text.Multibyte.Jisx0212
import Storefront.Text.Multibyte.ShiftJis

/-!
# EUC-JP

Japanese in pairs of bytes with the highest bit set. One byte announces the narrow katakana, another one a pair of the
supplement.
-/

namespace Storefront.Text.Multibyte.EucJp

/-- A byte of a pair. -/
def isHigh (b : UInt8) : Bool :=
  0xA1 ≤ b && b ≤ 0xFE

def cell? (t : CharTable) (a b : UInt8) : Option Char :=
  if isHigh a && isHigh b then t.char? ((a.toNat - 0xA1) * 94 + (b.toNat - 0xA1)) else none

/-- A byte for narrow katakana and one of them. -/
def narrow? (a b : UInt8) : Option Char :=
  if a == 0x8E && 0xA1 ≤ b && b ≤ 0xDF then some (narrowKatakana (b.toNat - 0xA1)) else none

def front (a : UInt8) (rest : List UInt8) : Front :=
  if a < 0x80 then .char (Char.ofNat a.toNat) 0
  else if !(isHigh a || a == 0x8E || a == 0x8F) then .bad 0
  else
    match rest with
    | [] => .bad 0
    | b :: rest =>
      if a == 0x8F && isHigh b then
        match rest with
        | [] => .bad 1
        | c :: _ =>
          match cell? jisx0212 b c with
          | some char => .char char 2
          | none => .broken c 1
      else
        match (narrow? a b).or (cell? jisx0208 a b) with
        | some char => .char char 1
        | none => .broken b 0

def decode : List UInt8 → List Char :=
  decodeFronts front

end Storefront.Text.Multibyte.EucJp
