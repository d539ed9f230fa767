import Storefront.Number.Power

/-!
# Binary floating-point numbers

Numbers of the 64-bit binary format by their bits, so that every fact about them is one about natural
numbers: a finite number is `significand * 2 ^ scale` with a sign. Results are rounded to the nearest
number, a half to the one whose last bit is zero.
-/

namespace Storefront

structure Binary64 where
  bits : UInt64
  deriving DecidableEq, Repr, Inhabited

namespace Binary64

def isNegative (x : Binary64) : Bool :=
  x.bits.toNat / twoTo 63 == 1

/-- The exponent field. -/
def exponent (x : Binary64) : Nat :=
  x.bits.toNat / twoTo 52 % twoTo 11

/-- The fraction field. -/
def fraction (x : Binary64) : Nat :=
  x.bits.toNat % twoTo 52

def isFinite (x : Binary64) : Bool :=
  x.exponent != 2047

def isNaN (x : Binary64) : Bool :=
  x.exponent == 2047 && x.fraction != 0

def isInfinite (x : Binary64) : Bool :=
  x.exponent == 2047 && x.fraction == 0

def significand (x : Binary64) : Nat :=
  if x.exponent = 0 then x.fraction else twoTo 52 + x.fraction

def scale (x : Binary64) : Int :=
  (max x.exponent 1 : Nat) - 1075

def isZero (x : Binary64) : Bool :=
  x.isFinite && x.significand == 0

/-- The absolute value of a finite number as a quotient. -/
def ratio (x : Binary64) : Nat × Nat :=
  match x.scale with
  | .ofNat e => (x.significand * twoTo e, 1)
  | .negSucc e => (x.significand, twoTo (e + 1))

/-- A number from its sign and its other bits. -/
def ofMagnitude (negative : Bool) (magnitude : Nat) : Binary64 :=
  ⟨UInt64.ofNat ((if negative then twoTo 63 else 0) + magnitude)⟩

def infinity (negative : Bool) : Binary64 :=
  ofMagnitude negative (2047 * twoTo 52)

def nan : Binary64 :=
  ofMagnitude false (2047 * twoTo 52 + twoTo 51)

def zero (negative : Bool) : Binary64 :=
  ofMagnitude negative 0

/-- The quotient of two numbers as a whole number, a half going to the even one. -/
def roundQuotient (num den : Nat) : Nat :=
  let q := num / den
  let r := num % den
  if 2 * r > den || (2 * r == den && q % 2 == 1) then q + 1 else q

/-- The exponent at which the significand of `num / den` has 53 bits, or the least one there is. -/
def scaleOf (num den : Nat) : Int :=
  let guess : Int := (num.log2 : Int) - den.log2 - 52
  let tooBig : Bool := match guess with
    | .ofNat e => decide (num < den * twoTo e * twoTo 52)
    | .negSucc e => decide (num * twoTo (e + 1) < den * twoTo 52)
  max (if tooBig then guess - 1 else guess) (-1074)

/-- The number nearest to a quotient. -/
def ofRatio (negative : Bool) (num den : Nat) : Binary64 :=
  if num = 0 then zero negative
  else
    let e := scaleOf num den
    let m := match e with
      | .ofNat k => roundQuotient num (den * twoTo k)
      | .negSucc k => roundQuotient (num * twoTo (k + 1)) den
    let magnitude := (e + 1074).toNat * twoTo 52 + m
    if magnitude ≥ 2047 * twoTo 52 then infinity negative else ofMagnitude negative magnitude

def ofNat (n : Nat) : Binary64 :=
  ofRatio false n 1

/-- The number nearest to `± digits * 10 ^ exponent`. Exponents past every number are cut short. -/
def ofDecimal (negative : Bool) (digits : Nat) (exponent : Int) : Binary64 :=
  if digits = 0 then zero negative
  else if exponent > 400 then infinity negative
  else match exponent with
    | .ofNat e => ofRatio negative (digits * tenTo e) 1
    | .negSucc e =>
      if (e : Int) + 1 > 400 + digits.log2 then zero negative
      else ofRatio negative digits (tenTo (e + 1))

def neg (x : Binary64) : Binary64 :=
  ofMagnitude (!x.isNegative) (x.bits.toNat % twoTo 63)

/-- The product of two finite numbers. -/
def mul (x y : Binary64) : Binary64 :=
  ofRatio (x.isNegative != y.isNegative) (x.ratio.1 * y.ratio.1) (x.ratio.2 * y.ratio.2)

/-- The quotient of two finite numbers, the second not zero. -/
def div (x y : Binary64) : Binary64 :=
  ofRatio (x.isNegative != y.isNegative) (x.ratio.1 * y.ratio.2) (x.ratio.2 * y.ratio.1)

/-- Equality as numbers: the two zeros are equal, and what is no number equals nothing. -/
def equals (x y : Binary64) : Bool :=
  !x.isNaN && !y.isNaN && (x == y || (x.isZero && y.isZero))

/-- More than zero. -/
def isPositive (x : Binary64) : Bool :=
  !x.isNaN && !x.isNegative && !x.isZero

end Binary64

end Storefront
