import Storefront.Number.Power

/-!
# The suggestion panel

What layout needs to know of the list of suggestions: whether it is shown, and how high it is.
-/

namespace Storefront

structure Panel where
  visible : Bool
  rows : Nat
  height : Nat
  deriving DecidableEq, Repr, Inhabited

namespace Panel

def hidden : Panel :=
  ⟨false, 0, 0⟩

/-- The greatest height in pixels, which no panel passes. -/
def maxHeight : Nat := twoTo 32 - 1

/-- The panel for a list of `count` suggestions with rows of a height. -/
def ofList (visible : Bool) (count rowHeight : Nat) : Panel :=
  let rows := if visible then count else 0
  { visible, rows, height := min (min rows maxHeight * rowHeight) maxHeight }

end Panel

end Storefront
