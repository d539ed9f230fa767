import Storefront.Number.Numeral
import Storefront.Number.Text
import Storefront.Text.Quoted
import Storefront.Yaml.Event.Basic

/-!
# What scalars mean

A plain scalar may be nothing, a truth value or a number; a tag may say which it has to be. Other scalars are
strings.
-/

namespace Storefront.Yaml

open Storefront.Text

/-- What stood where something else was wanted. -/
inductive Found where
  | unit
  | bool (b : Bool)
  | integer (n : Int)
  /-- An integer that takes up to 128 bits, with a sign or without. -/
  | wideInteger (n : Int)
  | float (x : Binary64)
  | string (s : String)
  | sequence
  | mapping
  deriving DecidableEq, Repr

def Found.describe : Found → String
  | unit => "unit value"
  | bool b => s!"boolean `{b}`"
  | integer n => s!"integer `{n}`"
  | wideInteger n => s!"integer `{n}` as " ++ (if n < 0 then "i128" else "u128")
  | float x => s!"floating point `{x.displayPointed}`"
  | string s => "string " ++ quoted s
  | sequence => "sequence"
  | mapping => "map"

def isNull (s : String) : Bool :=
  s == "null" || s == "Null" || s == "NULL" || s == "~"

def bool? (s : String) : Option Bool :=
  if s == "true" || s == "True" || s == "TRUE" then some true
  else if s == "false" || s == "False" || s == "FALSE" then some false
  else none

/-- Digits that begin with a zero are no number, behind a sign or without one. -/
def isZeroPadded (cs : List Char) : Bool :=
  let digits := match cs with
    | '-' :: rest => rest
    | '+' :: rest => rest
    | cs => cs
  match digits with
  | '0' :: c :: rest => (c :: rest).all Char.isDigit
  | _ => false

/-- A number behind a sign that says its base. -/
def basedNumber? (cs : List Char) : Option Nat :=
  match cs with
  | '0' :: 'x' :: rest => natOfDigits? 16 rest
  | '0' :: 'o' :: rest => natOfDigits? 8 rest
  | '0' :: 'b' :: rest => natOfDigits? 2 rest
  | _ => none

/-- A whole number below `limit`, which a plus sign may precede. -/
def natural? (limit : Nat) (s : String) : Option Nat :=
  let digits := match s.toList with
    | '+' :: rest => rest
    | cs => cs
  ((basedNumber? digits).filter (· < limit)).or
    (if isZeroPadded s.toList then none else (natOfDigits? 10 digits).filter (· < limit))

/-- A whole number behind a minus sign whose magnitude is at most `limit`. -/
def negative? (limit : Nat) (s : String) : Option Int :=
  match s.toList with
  | '-' :: digits =>
    let magnitude := ((basedNumber? digits).filter (· ≤ limit)).or
      (if isZeroPadded digits then none else (natOfDigits? 10 digits).filter (· ≤ limit))
    magnitude.map fun n => -(n : Int)
  | _ => none

/-- A number with places or an exponent, or one of those that are not finite. -/
def float? (s : String) : Option Binary64 :=
  let unsigned := match s.toList with
    | '+' :: '+' :: _ => none
    | '+' :: '-' :: _ => none
    | '+' :: rest => some (String.ofList rest)
    | _ => some s
  match unsigned with
  | none => none
  | some unsigned =>
    if unsigned == ".inf" || unsigned == ".Inf" || unsigned == ".INF" then some (.infinity false)
    else if s == "-.inf" || s == "-.Inf" || s == "-.INF" then some (.infinity true)
    else if s == ".nan" || s == ".NaN" || s == ".NAN" then some .nan
    else (Numeral.binary64? unsigned).filter (·.isFinite)

/-- A whole number of at most 64 bits if it has no more, and else of at most 128. -/
def integer? (s : String) : Option Found :=
  (((natural? (twoTo 64) s).map fun n => .integer n).or ((negative? (twoTo 63) s).map .integer)).or
    (((natural? (twoTo 128) s).map fun n => .wideInteger n).or ((negative? (twoTo 127) s).map .wideInteger))

/-- What a plain scalar is if nothing says what it has to be. -/
def plainContent (s : String) : Found :=
  if s.isEmpty || isNull s then .unit
  else
    match bool? s, integer? s with
    | some b, _ => .bool b
    | none, some n => n
    | none, none =>
      match if isZeroPadded s.toList then none else float? s with
      | some x => .float x
      | none => .string s

namespace Scalar

def boolTag : String := "tag:yaml.org,2002:bool"
def intTag : String := "tag:yaml.org,2002:int"
def floatTag : String := "tag:yaml.org,2002:float"
def nullTag : String := "tag:yaml.org,2002:null"

/-- What a scalar is, or what its tag says that it has to be and is not. -/
def content (s : Scalar) : Except String Found :=
  let untagged : Found := if s.style == .plain then plainContent s.text else .string s.text
  match s.tag with
  | none => .ok untagged
  | some tag =>
    if tag == boolTag then ((bool? s.text).map .bool).elim (.error "a boolean") .ok
    else if tag == intTag then (integer? s.text).elim (.error "an integer") .ok
    else if tag == floatTag then ((float? s.text).map .float).elim (.error "a float") .ok
    else if tag == nullTag then if isNull s.text then .ok .unit else .error "null"
    else if tag.startsWith "!" then .ok untagged
    else .ok (.string s.text)

/-- The scalar can be something else than a string: it is plain, or literal with a tag that says so. -/
def isTyped (s : Scalar) (tag : String) : Bool :=
  s.style == .plain || (s.style == .literal && s.tag == some tag)

/-- Nothing but white space stands where a value may. -/
def isMissing (s : Scalar) : Bool :=
  s.style == .plain && s.text.isEmpty

end Scalar

end Storefront.Yaml
