import Storefront.Text.Hex

/-!
# Tables of code points

Tables whose entries increase and lie apart, searched by bisection, and how rows of text write them down: a range
is `300-36F` or a single `34F`, in hexadecimal digits, and blanks set entries apart.
-/

namespace Storefront.Text

/-- An entry with an index in `[low, high)` that `side` finds neither before nor behind what is looked for. -/
def bisect {α : Type} (table : Array α) (side : α → Ordering) (low high : Nat) : Option α :=
  if _ : low < high then
    let mid := (low + high) / 2
    match table[mid]? with
    | none => none
    | some entry =>
      match side entry with
      | .lt => bisect table side low mid
      | .gt => bisect table side (mid + 1) high
      | .eq => some entry
  else none
termination_by high - low

/-- On which side of a range a number lies. -/
def sideOf (n first last : Nat) : Ordering :=
  if n < first then .lt else if last < n then .gt else .eq

def inRanges (table : Array (Nat × Nat)) (n : Nat) : Bool :=
  (bisect table (fun (first, last) => sideOf n first last) 0 table.size).isSome

/-- The entries of rows. -/
def entries (rows : List String) : List (List Char) :=
  rows.flatMap fun row => (row.splitOn " ").map String.toList

/-- What stands before and behind a separator, if that is there. -/
def parted (separator : Char) (cs : List Char) : List Char × Option (List Char) :=
  match cs.span (· ≠ separator) with
  | (cs, []) => (cs, none)
  | (cs, _ :: rest) => (cs, some rest)

def codePoint (cs : List Char) : Nat :=
  (natOfDigits? 16 cs).getD 0

def rangeOf (entry : List Char) : Nat × Nat :=
  let (first, last) := parted '-' entry
  (codePoint first, codePoint (last.getD first))

/-- The ranges that rows write down. -/
def rangesOf (rows : List String) : Array (Nat × Nat) :=
  ((entries rows).map rangeOf).toArray

end Storefront.Text
