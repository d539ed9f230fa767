import Storefront.Text.Ranges

/-!
# Substitutions of characters

What stands for a character, for many characters at once: in a run each of them, or each second, stands for a text
that is the same but for its last character, which grows with them. Rows write `C0-C3=41+300` or `100-12E/2=101`.
-/

namespace Storefront.Text

structure Substitution where
  first : Nat
  last : Nat
  step : Nat := 1
  /-- What stands for the first. -/
  text : List Nat
  deriving DecidableEq, Repr

namespace Substitution

/-- What stands for a number of the run. -/
def textOf? (s : Substitution) (n : Nat) : Option (List Nat) :=
  let distance := n - s.first
  if s.first ≤ n && n ≤ s.last && distance % s.step == 0 then
    match s.text.getLast? with
    | some final => some (s.text.dropLast ++ [final + distance])
    | none => some []
  else none

/-- The members of a run and what stands for each. -/
def members (s : Substitution) : List (Nat × List Nat) :=
  ((List.range ((s.last - s.first) / s.step + 1)).map fun k => s.first + k * s.step).filterMap fun n =>
    (s.textOf? n).map fun text => (n, text)

def ofEntry (entry : List Char) : Substitution :=
  let (run, text) := parted '=' entry
  let (range, step) := parted '/' run
  let (first, last) := rangeOf range
  { first, last
    step := codePoint (step.getD ['1'])
    text := (String.ofList (text.getD [])).splitOn "+" |>.map fun n => codePoint n.toList }

def ofRows (rows : List String) : Array Substitution :=
  ((entries rows).map ofEntry).toArray

/-- What stands for a number by a table. -/
def lookup? (table : Array Substitution) (n : Nat) : Option (List Nat) :=
  (bisect table (fun s => sideOf n s.first s.last) 0 table.size).bind (·.textOf? n)

/-- What stands for a character by a table. -/
def find? (table : Array Substitution) (c : Char) : Option (List Char) :=
  (lookup? table c.toNat).map fun text => text.map Char.ofNat

end Substitution

end Storefront.Text
