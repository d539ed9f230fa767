import Storefront.Json.Basic

/-!
# Products

What a search finds. Every field may be missing.
-/

namespace Storefront

/-- A product is identified by a text or by a number. -/
inductive ProductId where
  | text (s : String)
  | number (n : Json.Number)
  deriving DecidableEq, Repr, Inhabited

structure Product where
  id : Option ProductId
  name : Option String
  image : Option String
  category : Option String
  ratings : Option Binary64
  noRatings : Option Binary64
  discountPrice : Option Binary64
  actualPrice : Option Binary64
  keywords : Option (List String)
  deriving DecidableEq, Repr, Inhabited

def ProductId.equals : ProductId → ProductId → Bool
  | text s, text t => s == t
  | number m, number n => m.equals n
  | _, _ => false

/-- Both missing, or both there and equal by `eq`. -/
def bothOrNeither {α : Type} (eq : α → α → Bool) : Option α → Option α → Bool
  | none, none => true
  | some x, some y => eq x y
  | _, _ => false

namespace Product

/-- A product without any field. -/
def unknown : Product :=
  { id := none, name := none, image := none, category := none, ratings := none, noRatings := none
    discountPrice := none, actualPrice := none, keywords := none }

/-- Equality as records of numbers: the two zeros are equal, and what is no number equals nothing. -/
def equals (p q : Product) : Bool :=
  bothOrNeither ProductId.equals p.id q.id && p.name == q.name && p.image == q.image &&
    p.category == q.category && bothOrNeither Binary64.equals p.ratings q.ratings &&
    bothOrNeither Binary64.equals p.noRatings q.noRatings &&
    bothOrNeither Binary64.equals p.discountPrice q.discountPrice &&
    bothOrNeither Binary64.equals p.actualPrice q.actualPrice && p.keywords == q.keywords

end Product

end Storefront
