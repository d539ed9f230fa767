import Storefront.Yaml.Cursor

/-!
# Gaps in scalars

The white space between two words of a scalar. Within a line it is kept; a single line break is folded into a
blank, and of several all but the first are kept.
-/

namespace Storefront.Yaml

structure Gap where
  /-- A line break has been passed. -/
  broken : Bool := false
  /-- The white space, as long as no line break has been passed. -/
  spaces : List Char := []
  /-- The first line break, if it is not escaped. -/
  first : Option Char := none
  /-- The line breaks after the first. -/
  later : List Char := []
  deriving DecidableEq, Repr

namespace Gap

/-- What a gap stands for. -/
def text (g : Gap) : List Char :=
  if g.broken then
    match g.first with
    | some '\n' => if g.later.isEmpty then [' '] else g.later
    | some c => c :: g.later
    | none => g.later
  else g.spaces

def addBreak (g : Gap) (c : Char) : Gap :=
  if g.broken then { g with later := g.later ++ [c] }
  else { g with broken := true, spaces := [], first := some c }

/-- Reads on to the next word. A tab may not stand left of the column `indent` in a new line; where one
does is the error. `fuel` is at least the length of the text. -/
def read (indent : Nat) : Nat → Gap → Cursor → Except Cursor (Gap × Cursor)
  | 0, g, s => .ok (g, s)
  | fuel + 1, g, s =>
    match s.lineBreak? with
    | some (c, s) => read indent fuel (g.addBreak c) s
    | none =>
      match s.unread with
      | [] => .ok (g, s)
      | c :: _ =>
        if !isSpace c then .ok (g, s)
        else if !g.broken then read indent fuel { g with spaces := g.spaces ++ [c] } (s.right 1)
        else if c == '\t' && s.column < indent then .error s
        else read indent fuel g (s.right 1)

end Gap

end Storefront.Yaml
