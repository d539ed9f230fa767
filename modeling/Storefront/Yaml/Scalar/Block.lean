import Storefront.Yaml.Cursor
import Storefront.Yaml.Fault

/-!
# Block scalars

Indented lines. A literal scalar keeps its line breaks, a folded one folds those between lines that are not
indented further. The header says what becomes of the line breaks at the end.
-/

namespace Storefront.Yaml

/-- What becomes of the line breaks behind the last line: none is kept, one is kept, or all are. -/
inductive Chomping where
  | strip
  | clip
  | keep
  deriving DecidableEq, Repr

/-- What a header says: chomping, and by how much the lines are indented. -/
structure BlockHeader where
  chomping : Chomping := .clip
  increment : Option Nat := none
  deriving DecidableEq, Repr

def chomping? (s : Cursor) : Option (Chomping × Cursor) :=
  match s.peek with
  | some '+' => some (.keep, s.right 1)
  | some '-' => some (.strip, s.right 1)
  | _ => none

/-- Reads a digit, if there is one. -/
def increment? (start : Position) (s : Cursor) : Except Fault (Option Nat × Cursor) :=
  match s.peek with
  | none => .ok (none, s)
  | some c =>
    if !c.isDigit then .ok (none, s)
    else if c == '0' then
      .error { problem := .zeroIndentation, position := s.position, part := some (.blockScalar, start) }
    else .ok (some (c.toNat - '0'.toNat), s.right 1)

/-- Reads a header, in either order, and the rest of its line. -/
def blockHeader (start : Position) (s : Cursor) : Except Fault (BlockHeader × Cursor) := do
  let (header, s) ←
    match chomping? s with
    | some (chomping, s) => do
      let (increment, s) ← increment? start s
      .ok (({ chomping, increment } : BlockHeader), s)
    | none => do
      let (increment, s) ← increment? start s
      match increment, chomping? s with
      | some _, some (chomping, s) => .ok (({ chomping, increment } : BlockHeader), s)
      | _, _ => .ok (({ increment } : BlockHeader), s)
  match s.lineEnd? with
  | some s => .ok (header, s)
  | none =>
    .error { problem := .noLineEnd, position := s.skipSpaces.position, part := some (.blockScalar, start) }

/-- Passes indentation and empty lines, whose breaks are kept, up to a line with text. `indent` is `none` as
long as it is not known; `widest` is the longest indentation so far. `fuel` is more than the length of the
text. -/
def emptyLines (start : Position) (indent : Option Nat) :
    Nat → Nat → List Char → Cursor → Except Fault (Nat × List Char × Cursor)
  | 0, widest, out, s => .ok (widest, out, s)
  | fuel + 1, widest, out, s =>
    let blanks := (s.takeWhile (· == ' ')).length
    let s := s.right (match indent with
      | none => blanks
      | some n => min blanks (n - s.column))
    let widest := max widest s.column
    if s.peek == some '\t' && indent.all (s.column < ·) then
      .error { problem := .tabForIndentation, position := s.position, part := some (.blockScalar, start) }
    else
      match s.lineBreak? with
      | none => .ok (widest, out, s)
      | some (c, s) => emptyLines start indent fuel widest (out ++ [c]) s

/-- What has been read of a block scalar: text, the break of the last line, and those of the empty lines
behind it. -/
structure BlockScalar where
  text : List Char := []
  break? : Option Char := none
  empty : List Char := []
  /-- The last line is indented further than the scalar. -/
  indented : Bool := false
  deriving Repr

namespace BlockScalar

/-- The text up to where the next line begins. -/
def toNextLine (b : BlockScalar) (literal indented : Bool) : List Char :=
  let folds := !literal && b.break? == some '\n' && !b.indented && !indented
  let joint := if !folds then b.break?.toList else if b.empty.isEmpty then [' '] else []
  b.text ++ joint ++ b.empty

def finish (b : BlockScalar) (chomping : Chomping) : List Char :=
  match chomping with
  | .strip => b.text
  | .clip => b.text ++ b.break?.toList
  | .keep => b.text ++ b.break?.toList ++ b.empty

end BlockScalar

/-- Reads lines as long as they are indented to the column `indent`. `fuel` is more than the length of the
text. -/
def blockLines (start : Position) (literal : Bool) (indent : Nat) :
    Nat → BlockScalar → Cursor → Except Fault (BlockScalar × Cursor)
  | 0, b, s => .ok (b, s)
  | fuel + 1, b, s =>
    if s.column ≠ indent || s.unread.isEmpty then .ok (b, s)
    else do
      let indented := s.peek.any isSpace
      let line := s.takeWhile fun c => !isBreak c
      let text := b.toNextLine literal indented ++ line
      let s := s.right line.length
      let (break?, s) := match s.lineBreak? with
        | some (c, s) => (some c, s)
        | none => (none, s)
      let (_, empty, s) ← emptyLines start (some indent) (s.unread.length + 1) 0 [] s
      blockLines start literal indent fuel { text, break?, empty, indented } s

/-- Reads a block scalar from its indicator on. What surrounds it is indented to the column `outer`, if at
all; it is indented as much as its first line with text, and further than `outer`. -/
def blockScalar (literal : Bool) (outer : Option Nat) (s : Cursor) : Except Fault (List Char × Cursor) := do
  let start := s.position
  let (header, s) ← blockHeader start (s.right 1)
  let stated := header.increment.map (outer.getD 0 + ·)
  let (widest, empty, s) ← emptyLines start stated (s.unread.length + 1) 0 [] s
  let indent := stated.getD (max widest (max (match outer with
    | some n => n + 1
    | none => 0) 1))
  let (b, s) ← blockLines start literal indent (s.unread.length + 1) { empty } s
  .ok (b.finish header.chomping, s)

end Storefront.Yaml
