import Storefront.Yaml.Fault
import Storefront.Yaml.Scalar.Gap

/-!
# Plain scalars

Text without quotes. It ends before a colon or a comment that white space sets off, in flow style before a
bracket, a brace or a comma, and in block style where a line is not indented.
-/

namespace Storefront.Yaml

/-- A colon right before a character that ends a scalar in flow style. -/
def hasTightColon (cs : List Char) : Bool :=
  match cs with
  | ':' :: c :: _ =>
    c == ',' || c == '?' || c == '[' || c == ']' || c == '\x7b' || c == '\x7d'
  | _ => false

/-- No word of a plain scalar goes on here. -/
def endsPlainWord (inFlow : Bool) (cs : List Char) : Bool :=
  match cs with
  | [] => true
  | c :: rest =>
    endsWord (c :: rest) || (c == ':' && endsWord rest) ||
      (inFlow && (hasTightColon (c :: rest) || c == ',' || c == '[' || c == ']' || c == '\x7b' || c == '\x7d'))

def plainWord (inFlow : Bool) : List Char → List Char
  | [] => []
  | c :: rest => if endsPlainWord inFlow (c :: rest) then [] else c :: plainWord inFlow rest

/-- A scalar that has been read. -/
structure PlainScalar where
  text : List Char
  /-- A line break follows the scalar. -/
  broken : Bool
  cursor : Cursor
  deriving Repr

/-- Reads words and gaps. `fuel` is more than the length of the text. -/
def plainWords (inFlow : Bool) (indent : Nat) (start : Position) :
    Nat → List Char → Gap → Cursor → Except Fault PlainScalar
  | 0, out, gap, s => .ok ⟨out, gap.broken, s⟩
  | fuel + 1, out, gap, s =>
    if s.atDocumentMarker || s.peek == some '#' then .ok ⟨out, gap.broken, s⟩
    else
      let word := plainWord inFlow s.unread
      let (out, gap) := if word.isEmpty then (out, gap) else (out ++ gap.text ++ word, {})
      let s := s.right word.length
      if inFlow && hasTightColon s.unread then
        .error { problem := .colonInScalar, position := s.position, part := some (.plainScalar, start) }
      else if s.unread.isEmpty || !endsWord s.unread then .ok ⟨out, gap.broken, s⟩
      else
        match gap.read indent (s.unread.length + 1) s with
        | .error s =>
          .error
            { problem := .tabAgainstIndentation, position := s.position, part := some (.plainScalar, start) }
        | .ok (gap, s) =>
          if !inFlow && s.column < indent then .ok ⟨out, gap.broken, s⟩
          else plainWords inFlow indent start fuel out gap s

/-- Reads a plain scalar. In block style its lines are indented to the column `indent` at least. -/
def plainScalar (inFlow : Bool) (indent : Nat) (s : Cursor) : Except Fault PlainScalar :=
  plainWords inFlow indent s.position (s.unread.length + 1) [] {} s

end Storefront.Yaml
