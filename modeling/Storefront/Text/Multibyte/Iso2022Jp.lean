import Storefront.Text.Multibyte.Front
import Storefront.Text.Multibyte.ShiftJis

/-!
# ISO-2022-JP

Japanese in bytes without the highest bit. An escape sequence says in which set the bytes behind it are.
-/

namespace Storefront.Text.Multibyte.Iso2022Jp

/-- A set of characters. -/
inductive Mode where
  | ascii
  | roman
  | katakana
  | kanji
  deriving DecidableEq, Repr

/-- The set that the two bytes behind an escape name. -/
def mode? (a b : UInt8) : Option Mode :=
  if a == 0x28 && b == 0x42 then some .ascii
  else if a == 0x28 && b == 0x4A then some .roman
  else if a == 0x28 && b == 0x49 then some .katakana
  else if a == 0x24 && (b == 0x40 || b == 0x42) then some .kanji
  else none

/-- The character of a byte in a set with one byte for each. -/
def single? (mode : Mode) (b : UInt8) : Option Char :=
  match mode with
  | .katakana => if 0x21 ≤ b && b ≤ 0x5F then some (narrowKatakana (b.toNat - 0x21)) else none
  | .roman =>
    if b == 0x5C then some '¥' else if b == 0x7E then some '‾' else single b
  | _ => single b
where
  single (b : UInt8) : Option Char :=
    if b ≤ 0x7F && b ≠ 0x0E && b ≠ 0x0F then some (Char.ofNat b.toNat) else none

def isKanjiByte (b : UInt8) : Bool :=
  0x21 ≤ b && b ≤ 0x7E

/-- The set that bytes are in, and whether nothing stands behind the last escape sequence yet, so that another one
makes it senseless. -/
structure State where
  mode : Mode := .ascii
  bare : Bool := false
  deriving DecidableEq, Repr

def front (s : State) (a : UInt8) (rest : List UInt8) : Front × State :=
  let after : State := { s with bare := false }
  if a == 0x1B then
    match rest with
    | b :: c :: _ =>
      match mode? b c with
      | some mode => (⟨if s.bare then [replacement] else [], 2⟩, { mode, bare := true })
      | none => (.bad 0, after)
    | _ => (.bad 0, after)
  else if s.mode = .kanji then
    match rest with
    | b :: _ =>
      if !isKanjiByte a || b == 0x1B then (.bad 0, after)
      else
        let found := if isKanjiByte b then jisx0208.char? ((a.toNat - 0x21) * 94 + (b.toNat - 0x21)) else none
        (.char (found.getD replacement) 1, after)
    | [] => (.bad 0, after)
  else (.char ((single? s.mode a).getD replacement) 0, after)

def decode : List UInt8 → List Char :=
  decodeFrom front {}

end Storefront.Text.Multibyte.Iso2022Jp
