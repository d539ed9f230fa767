import Storefront.Number.Binary64
import Storefront.Text.Hex

/-!
# Numerals in settings

What counts as a whole or a decimal number in a setting or an environment variable.
-/

namespace Storefront.Numeral

open Storefront.Text

/-- A whole number below `limit`: digits of `base`, behind an optional plus sign. -/
def natBelow? (limit base : Nat) (cs : List Char) : Option Nat :=
  let digits := match cs with
    | '+' :: rest => rest
    | cs => cs
  (natOfDigits? base digits).filter (· < limit)

/-- An optional sign, and the rest. -/
def sign (cs : List Char) : Bool × List Char :=
  match cs with
  | '-' :: rest => (true, rest)
  | '+' :: rest => (false, rest)
  | cs => (false, cs)

/-- An exponent behind its letter: at least one digit, behind an optional sign. -/
def exponent? (cs : List Char) : Option Int :=
  let (negative, digits) := sign cs
  if digits.all Char.isDigit then
    (natOfDigits? 10 digits).map fun n => if negative then -(n : Int) else n
  else none

/-- The name of a number that is not finite, in any case. -/
def special? (negative : Bool) (cs : List Char) : Option Binary64 :=
  match String.ofList (cs.map Char.toLower) with
  | "inf" | "infinity" => some (Binary64.infinity negative)
  | "nan" => some Binary64.nan
  | _ => none

/-- Digits with an optional point among or beside them, at least one digit in all, and an optional
exponent; or the name of a number that is not finite. -/
def binary64? (s : String) : Option Binary64 :=
  let (negative, body) := sign s.toList
  match special? negative body with
  | some x => some x
  | none =>
    let whole := body.takeWhile Char.isDigit
    let rest := body.dropWhile Char.isDigit
    let (places, rest) := match rest with
      | '.' :: after => (after.takeWhile Char.isDigit, after.dropWhile Char.isDigit)
      | rest => ([], rest)
    match natOfDigits? 10 (whole ++ places) with
    | none => none
    | some digits =>
      let exponent := match rest with
        | [] => some 0
        | e :: after => if e == 'e' || e == 'E' then exponent? after else none
      exponent.map fun e => Binary64.ofDecimal negative digits (e - places.length)

end Storefront.Numeral
