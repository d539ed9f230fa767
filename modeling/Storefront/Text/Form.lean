import Storefront.Text.Percent

/-!
# Form-urlencoded pairs

`application/x-www-form-urlencoded`: pairs are joined by `&`, a key and its value by `=`, a space is
written `+`, and every byte but ASCII letters, digits and `*-._` is percent-encoded.
-/

namespace Storefront.Text.Form

/-- The bytes that stand for themselves. -/
def plain (c : Char) : Bool :=
  c.isAlphanum || c == '*' || c == '-' || c == '.' || c == '_'

def encodeByte (b : UInt8) : List Char :=
  if b == 0x20 then ['+']
  else if b < 0x80 && plain (Char.ofNat b.toNat) then [Char.ofNat b.toNat]
  else Percent.escape b

def encodeText (s : String) : List Char :=
  (utf8 s.toList).flatMap encodeByte

def encodePair (p : String × String) : List Char :=
  encodeText p.1 ++ '=' :: encodeText p.2

/-- The pairs in their order, each as `key=value`. -/
def encode : List (String × String) → List Char
  | [] => []
  | [p] => encodePair p
  | p :: q :: rest => encodePair p ++ '&' :: encode (q :: rest)

def decodeText (bs : List UInt8) : String :=
  String.ofList (decodeLossy (Percent.decode (bs.map fun b => if b == 0x2B then 0x20 else b)))

/-- The pieces between separators; there is always at least one. -/
def pieces (separator : UInt8) : List UInt8 → List (List UInt8)
  | [] => [[]]
  | b :: rest =>
    if b == separator then [] :: pieces separator rest
    else match pieces separator rest with
      | [] => [[b]]
      | piece :: others => (b :: piece) :: others

/-- A piece without `=` is a key with an empty value. -/
def decodePair (bs : List UInt8) : String × String :=
  (decodeText (bs.takeWhile (· != 0x3D)), decodeText ((bs.dropWhile (· != 0x3D)).drop 1))

/-- Empty pieces between separators are no pairs. -/
def decode (bs : List UInt8) : List (String × String) :=
  ((pieces 0x26 bs).filter (!·.isEmpty)).map decodePair

end Storefront.Text.Form
