import Storefront.Text.Blank

/-!
# Category sets

The labels a search is narrowed to. They are shown in the order in which they were added; two sets with the
same labels are the same set, whatever that order.
-/

namespace Storefront

open Storefront.Text

structure CategorySet where
  labels : List String
  deriving DecidableEq, Repr, Inhabited

namespace CategorySet

def empty : CategorySet :=
  ⟨[]⟩

/-- Whether exactly this label is in the set. -/
def contains (s : CategorySet) (label : String) : Bool :=
  s.labels.contains label

/-- Whether adding a label would change the set: it is not blank, and not there yet once it is trimmed. -/
def admits (s : CategorySet) (label : String) : Bool :=
  !(trim label).isEmpty && !s.contains (trim label)

def insert (s : CategorySet) (label : String) : CategorySet :=
  if s.admits label then ⟨s.labels ++ [trim label]⟩ else s

def erase (s : CategorySet) (label : String) : CategorySet :=
  ⟨s.labels.filter fun c => c != trim label⟩

/-- Whether erasing a label changes the set. -/
def erases (s : CategorySet) (label : String) : Bool :=
  (s.erase label).labels.length != s.labels.length

/-- Takes a label out if it is there, else adds it. -/
def toggle (s : CategorySet) (label : String) : CategorySet :=
  if s.erases label then s.erase label else s.insert label

def ofList (labels : List String) : CategorySet :=
  labels.foldl insert empty

def size (s : CategorySet) : Nat :=
  s.labels.length

/-- The labels by code point. -/
def sorted (s : CategorySet) : List String :=
  s.labels.mergeSort (· ≤ ·)

/-- The same labels in any order. -/
def equiv (s t : CategorySet) : Bool :=
  s.sorted == t.sorted

end CategorySet

end Storefront
