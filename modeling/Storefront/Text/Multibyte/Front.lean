import Storefront.Text.Utf8

/-!
# Reading from the front

Bytes are read front by front: what the first byte and those behind it say, and how many of them that takes.
-/

namespace Storefront.Text.Multibyte

structure Front where
  text : List Char
  /-- How many bytes behind the first belong to it. -/
  taken : Nat := 0
  deriving DecidableEq, Repr

namespace Front

def char (c : Char) (taken : Nat) : Front :=
  ⟨[c], taken⟩

/-- Something that stands for nothing. -/
def bad (taken : Nat) : Front :=
  ⟨[replacement], taken⟩

/-- A character that breaks off at `b`, where ASCII is read again. -/
def broken (b : UInt8) (before : Nat) : Front :=
  bad (if b < 0x80 then before else before + 1)

end Front

/-- The text of bytes, with a state that every front hands on to the next. -/
def decodeFrom {σ : Type} (front : σ → UInt8 → List UInt8 → Front × σ) (s : σ) : List UInt8 → List Char
  | [] => []
  | b :: rest =>
    let (f, s) := front s b rest
    f.text ++ decodeFrom front s (rest.drop f.taken)
termination_by bs => bs.length
decreasing_by
  simp only [List.length_drop, List.length_cons]
  omega

/-- The text of bytes whose fronts do not depend on each other. -/
def decodeFronts (front : UInt8 → List UInt8 → Front) : List UInt8 → List Char :=
  decodeFrom (fun () b rest => (front b rest, ())) ()

end Storefront.Text.Multibyte
