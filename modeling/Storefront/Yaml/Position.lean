/-!
# Positions in a YAML text
-/

namespace Storefront.Yaml

/-- A place in a text: how many bytes and lines lie before it, and how many characters of its line. -/
structure Position where
  index : Nat := 0
  line : Nat := 0
  column : Nat := 0
  deriving DecidableEq, Repr, Inhabited

namespace Position

/-- The place `n` characters further on in the same line, which take some bytes. -/
def right (p : Position) (n bytes : Nat) : Position :=
  { p with index := p.index + bytes, column := p.column + n }

/-- The start of the next line, behind a line break of so many bytes. -/
def down (p : Position) (bytes : Nat) : Position :=
  ⟨p.index + bytes, p.line + 1, 0⟩

def isStart (p : Position) : Bool :=
  p.line == 0 && p.column == 0

/-- Lines and columns are shown counted from one. -/
def text (p : Position) : String :=
  s!"line {p.line + 1} column {p.column + 1}"

/-- Where something was found. The very start is not worth a mention. -/
def suffix (p : Position) : String :=
  if p.isStart then "" else " at " ++ p.text

end Position

end Storefront.Yaml
