import Storefront.Product.Basic

/-!
# Sample products

The products that answer the reserved query without asking anyone.
-/

namespace Storefront.Product

/-- A price or rating in hundredths. -/
def hundredths (n : Nat) : Binary64 :=
  Binary64.ofRatio false n 100

def sample (id name photo category : String) (ratings noRatings discountPrice actualPrice : Nat)
    (keywords : List String) : Product :=
  { id := some (.text id)
    name := some name
    image := some ("https://images.unsplash.com/photo-" ++ photo ++ "?auto=format&fit=crop&w=800&q=60")
    category := some category
    ratings := some (hundredths ratings)
    noRatings := some (Binary64.ofNat noRatings)
    discountPrice := some (hundredths discountPrice)
    actualPrice := some (hundredths actualPrice)
    keywords := some keywords }

def samples : List Product :=
  [sample "1" "Classic Black T-Shirt" "1583743814966-8936f5b7be1a" "Men's Clothing"
      480 1200 2500 4000 ["shirt", "black", "classic", "men"],
    sample "2" "Minimalist Leather Wallet" "1620625515032-6ed0a1790485" "Accessories"
      490 850 4500 6000 ["wallet", "leather", "minimalist", "accessory"],
    sample "3" "Modern White Sneakers" "1542291026-7eec264c27ff" "Men's Shoes"
      470 2300 8000 12000 ["shoes", "sneakers", "white", "modern"],
    sample "4" "Sleek Wireless Headphones" "1505740420928-5e560c06d30e" "Electronics"
      460 5000 9999 14999 ["headphones", "wireless", "audio", "electronics"],
    sample "5" "Elegant Wrist Watch" "1524805444758-089113d48a6d" "Watches"
      490 1500 25000 40000 ["watch", "elegant", "timepiece", "accessory"],
    sample "6" "Monochrome Art Print" "1524758631624-e2822e304c36" "Home Decor"
      450 300 3500 5000 ["art", "print", "monochrome", "decor"]]

end Storefront.Product
