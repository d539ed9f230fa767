import Storefront.Json.Failure
import Storefront.Number.Text
import Storefront.Product.Basic
import Storefront.Text.Blank
import Storefront.Text.Form

/-!
# How a product is shown

The texts on a product's card. What is missing or blank gives way to a stand-in.
-/

namespace Storefront

open Storefront.Text

def ProductId.display : ProductId → String
  | text s => s
  | number n => n.text

namespace Product

/-- A text with something in it to see. -/
def shown? (s : Option String) : Option String :=
  s.filter fun s => !blank s

def displayName (p : Product) : String :=
  (shown? p.name).getD "No Title"

def displayCategory (p : Product) : String :=
  (shown? p.category).getD "Uncategorized"

/-- A price other than zero in dollars. -/
def dollars? (price : Option Binary64) : Option String :=
  (price.filter fun x => !x.isZero).map fun x => "$" ++ x.fixed 2

def priceLabel (p : Product) : String :=
  (dollars? p.discountPrice).getD "N/A"

/-- The price before the discount, if it is known. -/
def originalPriceLabel (p : Product) : Option String :=
  dollars? p.actualPrice

/-- The rating, and behind it how many there are. -/
def ratingLabel (p : Product) : String :=
  match p.ratings, p.noRatings with
  | some r, some n => r.fixed 1 ++ " (" ++ n.display ++ ")"
  | some r, none => r.fixed 1
  | none, _ => "N/A"

def placeholderBase : String := "https://via.placeholder.com/400x300.png"

/-- The text on a placeholder, so encoded that a space is percent-encoded too. -/
def placeholderText (label : String) : List Char :=
  (Form.encodeText label).flatMap fun c => if c == '+' then ['%', '2', '0'] else [c]

/-- The picture of the product, or a placeholder that shows its name. -/
def imageUrl (p : Product) : String :=
  match p.image.filter fun image => "http".toList.isPrefixOf image.toList with
  | some image => image
  | none =>
    placeholderBase ++ "?text=" ++ String.ofList (placeholderText ((shown? p.name).getD "No Image"))

end Product

end Storefront
