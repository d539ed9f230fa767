import Storefront.CategorySet
import Storefront.Location

/-!
# Search states

What is searched for: a trimmed query and a set of categories. The state is read off a location and can be
written back onto one; its canonical form tells searches apart.
-/

namespace Storefront

open Storefront.Text

structure SearchState where
  query : String
  categories : CategorySet
  deriving DecidableEq, Repr, Inhabited

namespace SearchState

/-- The parameter that holds the query. -/
def queryKey : String := "q"

/-- The parameter that holds a category, once for each. -/
def categoryKey : String := "cat"

def ofQuery (query : String) (categories : CategorySet) : SearchState :=
  { query := trim query, categories }

def ofLocation (l : Location) : SearchState :=
  ofQuery ((l.get? queryKey).getD "") (CategorySet.ofList (l.getAll categoryKey))

/-- The location with this state's query and categories; its other parameters stay. -/
def applyTo (s : SearchState) (l : Location) : Location :=
  let l := if s.query.isEmpty then l.delete queryKey else l.set queryKey s.query
  s.categories.labels.foldl (fun l label => l.append categoryKey label) (l.delete categoryKey)

/-- Nothing is searched for. -/
def isEmpty (s : SearchState) : Bool :=
  s.query.isEmpty

def canonicalPairs (s : SearchState) : List (String × String) :=
  (queryKey, s.query) :: s.categories.sorted.map fun label => (categoryKey, label)

/-- The written form of a search, in which the order of the categories does not show. -/
def canonical (s : SearchState) : String :=
  String.ofList (Form.encode s.canonicalPairs)

/-- The same query and the same categories in any order. -/
def equiv (s t : SearchState) : Bool :=
  s.query == t.query && s.categories.equiv t.categories

end SearchState

end Storefront
