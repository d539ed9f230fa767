import Storefront.Number.Power

/-!
# Punycode

Labels outside ASCII in the ASCII form of internationalised names: the ASCII characters first, then where
each other character goes, as numbers in a generalised base 36 whose thresholds adapt.
-/

namespace Storefront.Url.Punycode

def digitChar (d : Nat) : Char :=
  if d < 26 then Char.ofNat (0x61 + d) else Char.ofNat (0x16 + d)

def digitValue? (c : Char) : Option Nat :=
  let n := c.toNat
  if 0x61 ≤ n && n ≤ 0x7A then some (n - 0x61)
  else if 0x41 ≤ n && n ≤ 0x5A then some (n - 0x41)
  else if 0x30 ≤ n && n ≤ 0x39 then some (n - 0x16)
  else none

def threshold (k bias : Nat) : Nat :=
  if k ≤ bias then 1 else if bias + 26 ≤ k then 26 else k - bias

theorem threshold_pos (k bias : Nat) : 1 ≤ threshold k bias := by
  unfold threshold
  split
  · omega
  · split <;> omega

theorem threshold_le (k bias : Nat) : threshold k bias ≤ 26 := by
  unfold threshold
  split
  · omega
  · split <;> omega

def shrink (delta k : Nat) : Nat :=
  if 455 < delta then shrink (delta / 35) (k + 36) else k + 36 * delta / (delta + 38)
termination_by delta

def adapt (delta points : Nat) (first : Bool) : Nat :=
  let halved := if first then delta / 700 else delta / 2
  shrink (halved + halved / points) 0

/-- A reader in the middle of the numbers. `place` is where the next character goes, `start` its value
before the number in progress, of which `weight` and `k` describe the next digit. -/
structure Reader where
  out : List Nat
  code : Nat
  place : Nat
  start : Nat
  bias : Nat
  weight : Nat
  k : Nat

def read (r : Reader) : List Char → Option (List Nat)
  | [] => if r.k == 36 then some r.out else none
  | c :: cs => do
    let d ← digitValue? c
    let place := r.place + d * r.weight
    if place ≥ twoTo 32 then none
    let t := threshold r.k r.bias
    if d < t then
      let size := r.out.length + 1
      let code := r.code + place / size
      if code > 0x10FFFF || (0xD800 ≤ code && code ≤ 0xDFFF) then none
      let index := place % size
      read
        { out := r.out.take index ++ code :: r.out.drop index
          code, place := index + 1, start := index + 1
          bias := adapt (place - r.start) size (r.start == 0)
          weight := 1, k := 36 } cs
    else
      let weight := r.weight * (36 - t)
      if weight ≥ twoTo 32 then none
      read { r with place, weight, k := r.k + 36 } cs

/-- The label that an encoded one stands for. A hyphen with nothing before it sets nothing apart. -/
def decode? (label : List Char) : Option (List Char) := do
  let (tail, head) := label.reverse.span (· != '-')
  let head := head.reverse.dropLast
  if (head.isEmpty && label.contains '-') || head.any fun c => c.toNat ≥ 0x80 then none
  let out ← read
    { out := head.map Char.toNat, code := 0x80, place := 0, start := 0, bias := 72, weight := 1, k := 36 }
    tail.reverse
  some (out.map Char.ofNat)

def writeNumber (q k bias : Nat) : List Char :=
  let t := threshold k bias
  if h : q < t then [digitChar q]
  else digitChar (t + (q - t) % (36 - t)) :: writeNumber ((q - t) / (36 - t)) (k + 36) bias
termination_by q
decreasing_by
  have hpos := threshold_pos k bias
  have hle := threshold_le k bias
  have hq : (q - threshold k bias) / (36 - threshold k bias) ≤ q - threshold k bias := Nat.div_le_self _ _
  omega

/-- A writer in the middle of a label: how many characters are written, and the distance to the next. -/
structure Writer where
  handled : Nat
  delta : Nat
  bias : Nat
  out : List Char

/-- One pass over the label for the characters with the value `code`. -/
def writeCode (basics code : Nat) (w : Writer) : List Nat → Writer
  | [] => w
  | c :: cs =>
    if c < code then writeCode basics code { w with delta := w.delta + 1 } cs
    else if c == code then
      writeCode basics code
        { handled := w.handled + 1
          delta := 0
          bias := adapt w.delta (w.handled + 1) (w.handled == basics)
          out := w.out ++ writeNumber w.delta 36 w.bias } cs
    else writeCode basics code w cs

/-- The passes for the values in `codes`, which increase; `next` is the value after the last one. -/
def writeCodes (label : List Nat) (basics next : Nat) (w : Writer) : List Nat → List Char
  | [] => w.out
  | code :: codes =>
    let w := { w with delta := w.delta + (code - next) * (w.handled + 1) }
    let w := writeCode basics code w label
    writeCodes label basics (code + 1) { w with delta := w.delta + 1 } codes

def encode (label : List Char) : List Char :=
  let points := label.map Char.toNat
  let basic := label.filter fun c => c.toNat < 0x80
  let codes := ((points.filter (· ≥ 0x80)).mergeSort (· ≤ ·)).eraseDups
  let start := if basic.isEmpty then [] else basic ++ ['-']
  writeCodes points basic.length 0x80 ⟨basic.length, 0, 72, start⟩ codes

end Storefront.Url.Punycode
