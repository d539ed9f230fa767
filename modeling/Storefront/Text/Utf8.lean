/-!
# UTF-8

A text as bytes, and bytes as text. Reading is lossy: each longest piece of malformed input that could
have begun a character becomes one replacement character.
-/

namespace Storefront.Text

/-- The bytes of a text. -/
def utf8 (cs : List Char) : List UInt8 :=
  cs.flatMap String.utf8EncodeChar

/-- Stands for input that is no text. -/
def replacement : Char := '\uFFFD'

namespace Utf8

/-- A character whose bytes are still coming: how many, the bits read so far, and the range that the
next byte must lie in. -/
structure Pending where
  need : Nat
  bits : Nat
  low : UInt8
  high : UInt8
  deriving DecidableEq, Repr

/-- What the first byte of a character tells. -/
inductive Lead where
  | char (c : Char)
  | pending (p : Pending)
  | malformed

/-- The ranges leave out overlong forms, surrogates and numbers past the last code point. -/
def lead (b : UInt8) : Lead :=
  if b < 0x80 then .char (Char.ofNat b.toNat)
  else if b < 0xC2 then .malformed
  else if b < 0xE0 then .pending ⟨1, b.toNat % 32, 0x80, 0xBF⟩
  else if b == 0xE0 then .pending ⟨2, 0, 0xA0, 0xBF⟩
  else if b == 0xED then .pending ⟨2, 13, 0x80, 0x9F⟩
  else if b < 0xF0 then .pending ⟨2, b.toNat % 16, 0x80, 0xBF⟩
  else if b == 0xF0 then .pending ⟨3, 0, 0x90, 0xBF⟩
  else if b < 0xF4 then .pending ⟨3, b.toNat % 8, 0x80, 0xBF⟩
  else if b == 0xF4 then .pending ⟨3, 4, 0x80, 0x8F⟩
  else .malformed

/-- Characters that a byte completes, and the character it leaves open. -/
def step (pending : Option Pending) (b : UInt8) : List Char × Option Pending :=
  let first : List Char × Option Pending :=
    match lead b with
    | .char c => ([c], none)
    | .pending p => ([], some p)
    | .malformed => ([replacement], none)
  match pending with
  | none => first
  | some p =>
    if p.low ≤ b && b ≤ p.high then
      let bits := p.bits * 64 + b.toNat % 64
      if p.need ≤ 1 then ([Char.ofNat bits], none)
      else ([], some ⟨p.need - 1, bits, 0x80, 0xBF⟩)
    else (replacement :: first.1, first.2)

def decodeFrom (pending : Option Pending) : List UInt8 → List Char
  | [] => if pending.isSome then [replacement] else []
  | b :: bs => (step pending b).1 ++ decodeFrom (step pending b).2 bs

end Utf8

/-- The text that bytes spell, with a replacement character for each malformed piece. -/
def decodeLossy (bs : List UInt8) : List Char :=
  Utf8.decodeFrom none bs

/-- The text that bytes spell, if they are the bytes of one. -/
def decodeStrict? (bs : List UInt8) : Option (List Char) :=
  let cs := decodeLossy bs
  if utf8 cs == bs then some cs else none

end Storefront.Text
