import Storefront.Number.Binary64

/-!
# Shortest decimals

The decimal with the fewest digits that reads back as a given number, and among those the one nearest to it.
A number stands for all reals between the midpoints to its neighbours; its own two neighbours on each decimal
grid are tried, from the coarsest grid on.
-/

namespace Storefront.Binary64

/-- A positive decimal `digits * 10 ^ exponent`. -/
structure Decimal where
  digits : Nat
  exponent : Int
  deriving DecidableEq, Repr

/-- The reals that round to a number, as `low / den` to `high / den` around `mid / den`. -/
structure Interval where
  low : Nat
  mid : Nat
  high : Nat
  den : Nat
  closed : Bool

/-- Below a power of two the neighbours are twice as near. -/
def interval (x : Binary64) : Interval :=
  let m := x.significand
  let below := if x.fraction == 0 && x.exponent > 1 then 1 else 2
  match x.scale with
  | .ofNat e =>
    { low := (4 * m - below) * twoTo e, mid := 4 * m * twoTo e, high := (4 * m + 2) * twoTo e, den := 4
      closed := m % 2 == 0 }
  | .negSucc e =>
    { low := 4 * m - below, mid := 4 * m, high := 4 * m + 2, den := twoTo (e + 3), closed := m % 2 == 0 }

def Interval.contains (i : Interval) (num den : Nat) : Bool :=
  let a := i.low * den
  let v := num * i.den
  let b := i.high * den
  if i.closed then a ≤ v && v ≤ b else a < v && v < b

def countDigits (n : Nat) : Nat :=
  (Nat.toDigits 10 n).length

/-- The greatest `k` with `10 ^ k ≤ num / den`. -/
def magnitude (num den : Nat) : Int :=
  if num ≥ den then (countDigits (num / den) : Int) - 1
  else
    let j := countDigits den - countDigits num
    if num * tenTo j ≥ den then -(j : Int) else -(j + 1 : Int)

/-- The point of the grid `10 ^ p` nearest to the middle, of those two beside it that lie inside. -/
def Interval.onGrid (i : Interval) (p : Int) : Option Nat :=
  let up : Nat := match p with
    | .ofNat e => tenTo e
    | .negSucc _ => 1
  let down : Nat := match p with
    | .ofNat _ => 1
    | .negSucc e => tenTo (e + 1)
  let num := i.mid * down
  let den := i.den * up
  let a := num / den
  let r := num % den
  let floorIn := a != 0 && i.contains (a * up) down
  let ceilIn := i.contains ((a + 1) * up) down
  if floorIn && ceilIn then
    if 2 * r < den || (2 * r == den && a % 2 == 0) then some a else some (a + 1)
  else if floorIn then some a
  else if ceilIn then some (a + 1)
  else none

/-- Tries grids from `10 ^ p` on, each ten times finer than the last. -/
def Interval.search (i : Interval) (p : Int) : Nat → Decimal
  | 0 => ⟨(i.onGrid p).getD 0, p⟩
  | more + 1 =>
    match i.onGrid p with
    | some digits => ⟨digits, p⟩
    | none => i.search (p - 1) more

/-- Without trailing zeros. -/
def Decimal.normal (d : Decimal) : Nat → Decimal
  | 0 => d
  | more + 1 =>
    if d.digits != 0 && d.digits % 10 == 0 then Decimal.normal ⟨d.digits / 10, d.exponent + 1⟩ more else d

/-- The shortest decimal of a finite number that is not zero. -/
def shortest (x : Binary64) : Decimal :=
  let i := x.interval
  (i.search (magnitude i.mid i.den) 17).normal 20

end Storefront.Binary64
