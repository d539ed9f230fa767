/-!
# Tables of characters

Characters by number, written in rows of text. A blank in a row stands for no character.
-/

namespace Storefront.Text.Multibyte

/-- Runs of characters, and the number that each begins with. -/
structure CharTable where
  runs : List (Nat × Array Char)

namespace CharTable

def ofRows (runs : List (Nat × List String)) : CharTable :=
  ⟨runs.map fun (first, rows) => (first, (rows.flatMap String.toList).toArray)⟩

/-- The character with a number. -/
def char? (t : CharTable) (n : Nat) : Option Char := do
  let (first, chars) ← t.runs.find? fun (first, chars) => first ≤ n && n < first + chars.size
  let c ← chars[n - first]?
  if c == ' ' then none else some c

/-- All characters in a table. -/
def chars (t : CharTable) : List Char :=
  t.runs.flatMap fun (_, chars) => chars.toList.filter (· ≠ ' ')

/-- Those of `size` characters from `first` on that a table does not have, in order. -/
def missing (t : CharTable) (first size : Nat) : Array Char :=
  let known := t.chars.foldl (fun known c => known.setIfInBounds c.toNat true) (Array.replicate (first + size) false)
  let left := (List.range size).filter fun n => !(known[first + n]?.getD false)
  (left.map fun n => Char.ofNat (first + n)).toArray

end CharTable

end Storefront.Text.Multibyte
