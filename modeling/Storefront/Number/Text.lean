import Storefront.Number.Shortest

/-!
# Numbers as text

Three written forms: in full without an exponent, rounded to a fixed number of places, and the form data
files use, with an exponent for very large and very small numbers.
-/

namespace Storefront.Binary64

def digitsOf (n : Nat) : List Char :=
  Nat.toDigits 10 n

def signOf (x : Binary64) : List Char :=
  if x.isNegative then ['-'] else []

/-- The name of a number that is not finite. -/
def specialName (x : Binary64) : String :=
  if x.isNaN then "NaN" else if x.isNegative then "-inf" else "inf"

/-- `digits` with a point before the last `places` of them. -/
def pointed (digits : List Char) (places : Nat) : List Char :=
  if places = 0 then digits
  else
    let padded := List.replicate (places + 1 - digits.length) '0' ++ digits
    padded.take (padded.length - places) ++ '.' :: padded.drop (padded.length - places)

/-- A decimal without an exponent. -/
def Decimal.positional (d : Decimal) : List Char :=
  match d.exponent with
  | .ofNat e => digitsOf d.digits ++ List.replicate e '0'
  | .negSucc e => pointed (digitsOf d.digits) (e + 1)

/-- The shortest text that reads back, without an exponent and without a fraction if there is none. -/
def display (x : Binary64) : String :=
  if !x.isFinite then x.specialName
  else if x.isZero then String.ofList (x.signOf ++ ['0'])
  else String.ofList (x.signOf ++ x.shortest.positional)

/-- As `display`, with `.0` behind a whole number. -/
def displayPointed (x : Binary64) : String :=
  let text := x.display
  if x.isFinite && !text.toList.contains '.' then text ++ ".0" else text

/-- Rounded to a number of places, a half to the even neighbour. -/
def fixed (places : Nat) (x : Binary64) : String :=
  if !x.isFinite then x.specialName
  else
    let (num, den) := x.ratio
    let scaled := roundQuotient (num * tenTo places) den
    String.ofList (x.signOf ++ pointed (digitsOf scaled) places)

/-- An exponent is written from `1e16` on and below `1e-5`; a whole number ends in `.0`. -/
def dataText (x : Binary64) : String :=
  if !x.isFinite then x.specialName
  else if x.isZero then String.ofList (x.signOf ++ ['0', '.', '0'])
  else
    let d := x.shortest
    let digits := digitsOf d.digits
    let point : Int := digits.length + d.exponent
    let body :=
      if 0 ≤ d.exponent && point ≤ 16 then d.positional ++ ['.', '0']
      else if -5 < point && point ≤ 16 then d.positional
      else
        let mantissa := match digits with
          | [c] => [c]
          | c :: rest => c :: '.' :: rest
          | [] => []
        mantissa ++ 'e' :: (if point > 0 then ['+'] else []) ++ (toString (point - 1)).toList
    String.ofList (x.signOf ++ body)

end Storefront.Binary64
