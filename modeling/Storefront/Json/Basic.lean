import Storefront.Number.Binary64

/-!
# JSON values

A number is kept as a whole number where it was written as one and fits 64 bits. The members of an object
stand in the order in which they were written.
-/

namespace Storefront.Json

inductive Number where
  | natural (n : Nat)
  | negative (n : Nat)
  | float (x : Binary64)
  deriving DecidableEq, Repr, Inhabited

/-- The number as a floating-point one. -/
def Number.toBinary64 : Number → Binary64
  | natural n => Binary64.ofRatio false n 1
  | negative n => Binary64.ofRatio true n 1
  | float x => x

/-- The same spelling kind and the same number. -/
def Number.equals : Number → Number → Bool
  | natural m, natural n => m == n
  | negative m, negative n => m == n
  | float x, float y => x.equals y
  | _, _ => false

inductive Value where
  | null
  | bool (b : Bool)
  | number (n : Number)
  | string (s : String)
  | array (items : List Value)
  | object (members : List (String × Value))
  deriving Repr, Inhabited

end Storefront.Json
