/-!
# Powers of two and of ten
-/

namespace Storefront

/-- How many numbers have at most so many binary digits. -/
def twoTo (digits : Nat) : Nat :=
  Nat.pow 2 digits

/-- How many numbers have at most so many decimal digits. -/
def tenTo (digits : Nat) : Nat :=
  Nat.pow 10 digits

end Storefront
