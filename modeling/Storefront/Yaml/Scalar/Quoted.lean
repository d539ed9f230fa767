import Storefront.Text.Hex
import Storefront.Yaml.Fault
import Storefront.Yaml.Scalar.Gap

/-!
# Quoted scalars

Text between quotes. Between single quotes a quote is written twice; between double quotes a backslash
begins an escape, and escapes a line break.
-/

namespace Storefront.Yaml

open Storefront.Text

/-- The character that a letter behind a backslash stands for. -/
def simpleEscape? (c : Char) : Option Char :=
  match c with
  | '0' => some '\x00'
  | 'a' => some '\x07'
  | 'b' => some '\x08'
  | 't' => some '\t'
  | '\t' => some '\t'
  | 'n' => some '\n'
  | 'v' => some '\x0B'
  | 'f' => some '\x0C'
  | 'r' => some '\r'
  | 'e' => some '\x1B'
  | ' ' => some ' '
  | '"' => some '"'
  | '/' => some '/'
  | '\\' => some '\\'
  | 'N' => some '\x85'
  | '_' => some '\xA0'
  | 'L' => some '\u2028'
  | 'P' => some '\u2029'
  | _ => none

/-- How many hexadecimal digits follow a letter behind a backslash. -/
def escapeLength? (c : Char) : Option Nat :=
  match c with
  | 'x' => some 2
  | 'u' => some 4
  | 'U' => some 8
  | _ => none

/-- The character with a number, if it has one. -/
def charOfNat? (n : Nat) : Option Char :=
  if (0xD800 ≤ n && n ≤ 0xDFFF) || n > 0x10FFFF then none else some (Char.ofNat n)

/-- Reads an escape from its backslash on. -/
def escape (start : Position) (s : Cursor) : Except Fault (Char × Cursor) :=
  let fail {α : Type} (problem : Problem) (cursor : Cursor) : Except Fault α :=
    .error { problem, position := cursor.position, part := some (.quotedCharacter, start) }
  match s.unread with
  | _ :: c :: rest =>
    match simpleEscape? c, escapeLength? c with
    | some value, _ => .ok (value, s.right 2)
    | none, none => fail .unknownEscape s
    | none, some n =>
      let digits := rest.take n
      if digits.length < n then fail .noHexDigit (s.right 2)
      else
        match natOfDigits? 16 digits with
        | none => fail .noHexDigit (s.right 2)
        | some value =>
          match charOfNat? value with
          | none => fail .badEscapedCharacter (s.right 2)
          | some value => .ok (value, s.right (2 + n))
  | _ => fail .unknownEscape s

/-- Reads up to white space, the closing quote or an escaped line break; whether it was the last. `fuel` is
more than the length of the text. -/
def quotedWord (single : Bool) (start : Position) :
    Nat → List Char → Cursor → Except Fault (List Char × Bool × Cursor)
  | 0, out, s => .ok (out, false, s)
  | fuel + 1, out, s =>
    match s.unread with
    | [] => .ok (out, false, s)
    | c :: rest =>
      if isSpace c || isBreak c then .ok (out, false, s)
      else if single then
        if c == '\'' then
          if rest.head? == some '\'' then quotedWord single start fuel (out ++ ['\'']) (s.right 2)
          else .ok (out, false, s)
        else quotedWord single start fuel (out ++ [c]) (s.right 1)
      else if c == '"' then .ok (out, false, s)
      else if c == '\\' then
        match (s.right 1).lineBreak? with
        | some (_, s) => .ok (out, true, s)
        | none => do
          let (value, s) ← escape start s
          quotedWord single start fuel (out ++ [value]) s
      else quotedWord single start fuel (out ++ [c]) (s.right 1)

/-- Reads words and gaps up to the closing quote. `fuel` is more than the length of the text. -/
def quotedWords (single : Bool) (start : Position) : Nat → List Char → Cursor → Except Fault (List Char × Cursor)
  | 0, out, s => .ok (out, s)
  | fuel + 1, out, s => do
    let fail {α : Type} (problem : Problem) : Except Fault α :=
      .error { problem, position := s.position, part := some (.quotedScalar, start) }
    if s.atDocumentMarker then fail .markerInScalar
    else if s.unread.isEmpty then fail .endInScalar
    else
      let (word, escaped, s) ← quotedWord single start (s.unread.length + 1) [] s
      if s.peek == some (if single then '\'' else '"') then .ok (out ++ word, s.right 1)
      else
        match Gap.read 0 (s.unread.length + 1) { broken := escaped } s with
        | .error s => .ok (out ++ word, s)
        | .ok (gap, s) => quotedWords single start fuel (out ++ word ++ gap.text) s

/-- Reads a quoted scalar from its first quote on. -/
def quotedScalar (single : Bool) (s : Cursor) : Except Fault (List Char × Cursor) :=
  quotedWords single s.position (s.unread.length + 1) [] (s.right 1)

end Storefront.Yaml
