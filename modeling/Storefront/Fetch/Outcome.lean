import Storefront.Fetch.Error
import Storefront.Product.Basic

/-!
# Outcomes of a search

How far the search that is shown has come.
-/

namespace Storefront

inductive Outcome where
  | idle
  | loading
  | success (products : List Product)
  | failure (message : String)
  deriving DecidableEq, Repr, Inhabited

namespace Outcome

def ofResult : Except FetchError (List Product) → Outcome
  | .ok products => success products
  | .error e => failure ("Failed to fetch results: " ++ e.message)

def isLoading : Outcome → Bool
  | loading => true
  | _ => false

/-- Nothing more is waited for. -/
def isTerminal : Outcome → Bool
  | success _ => true
  | failure _ => true
  | _ => false

/-- The products to show. -/
def results : Outcome → List Product
  | success products => products
  | _ => []

def error? : Outcome → Option String
  | failure message => some message
  | _ => none

/-- Equality, with products compared as records of numbers. -/
def equals : Outcome → Outcome → Bool
  | idle, idle => true
  | loading, loading => true
  | success ps, success qs => ps.length == qs.length && (ps.zip qs).all fun (p, q) => p.equals q
  | failure m, failure n => m == n
  | _, _ => false

end Outcome

end Storefront
