import Storefront.Number.Binary64

/-!
# Timeouts

How long a reply is waited for, in nanoseconds.
-/

namespace Storefront.Http

structure Timeout where
  nanoseconds : Nat
  positive : 0 < nanoseconds
  deriving DecidableEq, Repr

/-- A number of seconds to the nearest nanosecond, a half to the even one. It has to be more than none and fit
into 64 bits. -/
def Timeout.ofSeconds? (x : Binary64) : Option Timeout :=
  if !x.isFinite || x.isNegative then none
  else
    let (num, den) := x.ratio
    let n := Binary64.roundQuotient (num * tenTo 9) den
    if h : 0 < n then if num < twoTo 64 * den then some ⟨n, h⟩ else none
    else none

end Storefront.Http
