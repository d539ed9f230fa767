/-!
# Hexadecimal digits
-/

namespace Storefront.Text

/-- A number below sixteen as an upper-case digit. -/
def hexDigit (n : Nat) : Char :=
  if n < 10 then Char.ofNat (0x30 + n) else Char.ofNat (0x37 + n)

/-- A number below sixteen as a lower-case digit. -/
def hexDigitLower (n : Nat) : Char :=
  if n < 10 then Char.ofNat (0x30 + n) else Char.ofNat (0x57 + n)

/-- The value of a digit of either case. -/
def hexValue (c : Char) : Option Nat :=
  let n := c.toNat
  if 0x30 ≤ n && n ≤ 0x39 then some (n - 0x30)
  else if 0x41 ≤ n && n ≤ 0x46 then some (n - 0x37)
  else if 0x61 ≤ n && n ≤ 0x66 then some (n - 0x57)
  else none

theorem hexValue_hexDigit {n : Nat} (h : n < 16) : hexValue (hexDigit n) = some n := by
  have hall : ∀ m ∈ List.range 16, hexValue (hexDigit m) = some m := by decide
  exact hall n (List.mem_range.mpr h)

/-- A number in lower-case digits without leading zeros. -/
def hexNat (n : Nat) : List Char :=
  Nat.toDigits 16 n

/-- The value of a character as a digit of `base`, which is at most 36. -/
def digitValue (base : Nat) (c : Char) : Option Nat :=
  let n := c.toNat
  let v :=
    if 0x30 ≤ n && n ≤ 0x39 then some (n - 0x30)
    else if 0x41 ≤ n && n ≤ 0x5A then some (n - 0x37)
    else if 0x61 ≤ n && n ≤ 0x7A then some (n - 0x57)
    else none
  v.filter (· < base)

/-- A non-empty run of digits of `base` as a number. -/
def natOfDigits? (base : Nat) (cs : List Char) : Option Nat :=
  match cs with
  | [] => none
  | _ =>
    cs.foldl (fun acc c => do
      let n ← acc
      let d ← digitValue base c
      some (n * base + d)) (some 0)

end Storefront.Text
