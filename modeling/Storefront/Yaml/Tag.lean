import Storefront.Text.Hex
import Storefront.Text.Utf8
import Storefront.Yaml.Cursor
import Storefront.Yaml.Fault

/-!
# Names, tags and directives

What stands before a value or a document to say something about it.
-/

namespace Storefront.Yaml

open Storefront.Text

/-- Something in a part of the text that begins at `start` is wrong. -/
def failIn {α : Type} (part : Part) (start : Position) (problem : Problem) (s : Cursor) : Except Fault α :=
  .error { problem, position := s.position, part := some (part, start) }

/-! ## Anchors and aliases -/

/-- What may stand right behind the name of an anchor. -/
def endsAnchor (cs : List Char) : Bool :=
  endsWord cs || cs.head?.any fun c =>
    c == '?' || c == ':' || c == ',' || c == ']' || c == '\x7d' || c == '%' || c == '@' || c == '\x60'

/-- Reads a name behind the indicator of an anchor or an alias. -/
def anchorName (part : Part) (s : Cursor) : Except Fault (List Char × Cursor) :=
  let name := (s.right 1).takeWhile isNameChar
  let rest := s.right (1 + name.length)
  if name.isEmpty || !endsAnchor rest.unread then failIn part s.position .noName rest
  else .ok (name, rest)

/-! ## Tags -/

/-- Reads a tag handle: a name between exclamation marks, the second of which may be missing in a tag. -/
def tagHandle (directive : Bool) (start : Position) (s : Cursor) : Except Fault (List Char × Cursor) :=
  if s.peek ≠ some '!' then failIn (if directive then .tagDirectiveStart else .tag) start .noBang s
  else
    let name := (s.right 1).takeWhile isNameChar
    let rest := s.right (1 + name.length)
    if rest.peek == some '!' then .ok ('!' :: name ++ ['!'], rest.right 1)
    else if directive && !name.isEmpty then failIn .tagDirectiveHandle start .noBang rest
    else .ok ('!' :: name, rest)

/-- The characters of a tag; some only where brackets enclose it. -/
def isTagChar (enclosed : Bool) (c : Char) : Bool :=
  isNameChar c || [';', '/', '?', ':', '@', '&', '=', '+', '$', '.', '%', '!', '~', '*', '\'', '(', ')'].contains c ||
    (enclosed && [',', '[', ']'].contains c)

/-- How many bytes a character has that is written in UTF-8 with a first byte. -/
def octetCount? (first : Nat) : Option Nat :=
  if first < 0x80 then some 1
  else if 0xC0 ≤ first && first < 0xE0 then some 2
  else if 0xE0 ≤ first && first < 0xF0 then some 3
  else if 0xF0 ≤ first && first < 0xF8 then some 4
  else none

/-- A byte written as a percent sign and two digits. -/
def octet? (cs : List Char) : Option Nat :=
  match cs with
  | '%' :: a :: b :: _ =>
    match hexValue a, hexValue b with
    | some x, some y => some (x * 16 + y)
    | _, _ => none
  | _ => none

/-- Reads the escaped bytes of the rest of a character. -/
def trailingOctets (part : Part) (start : Position) : Nat → Cursor → Except Fault (List UInt8 × Cursor)
  | 0, s => .ok ([], s)
  | n + 1, s =>
    match octet? s.unread with
    | none => failIn part start .noUriOctet s
    | some o =>
      if 0x80 ≤ o && o < 0xC0 then do
        let (os, s) ← trailingOctets part start n (s.right 3)
        .ok (UInt8.ofNat o :: os, s)
      else failIn part start .badTrailingOctet s

/-- Reads a character whose bytes are escaped. -/
def escapedOctets (part : Part) (start : Position) (s : Cursor) : Except Fault (List UInt8 × Cursor) :=
  match octet? s.unread with
  | none => failIn part start .noUriOctet s
  | some o =>
    match octetCount? o with
    | none => failIn part start .badLeadingOctet s
    | some n => do
      let (os, s) ← trailingOctets part start (n - 1) (s.right 3)
      .ok (UInt8.ofNat o :: os, s)

/-- Reads the characters of a tag. `fuel` is more than the length of the text. -/
def tagChars (part : Part) (enclosed : Bool) (start : Position) : Nat → Cursor → Except Fault (List UInt8 × Cursor)
  | 0, s => .ok ([], s)
  | fuel + 1, s =>
    match s.unread with
    | [] => .ok ([], s)
    | c :: _ =>
      if !isTagChar enclosed c then .ok ([], s)
      else if c == '%' then do
        let (os, s) ← escapedOctets part start s
        let (rest, s) ← tagChars part enclosed start fuel s
        .ok (os ++ rest, s)
      else do
        let (rest, s) ← tagChars part enclosed start fuel (s.right 1)
        .ok (utf8 [c] ++ rest, s)

/-- Reads what follows a tag handle. `head` is what has been read of it as a handle. A NUL ends the text of a
tag, whatever follows. -/
def tagSuffix (directive enclosed : Bool) (head : List Char) (start : Position) (s : Cursor) :
    Except Fault (List Char × Cursor) := do
  let part := if directive then .tagDirectiveUri else .tagUri
  let (os, rest) ← tagChars part enclosed start (s.unread.length + 1) s
  if head.isEmpty && os.isEmpty then failIn part start .noTagUri rest
  else .ok (head.drop 1 ++ decodeLossy (os.takeWhile (· ≠ 0)), rest)

/-- Reads a tag as a handle and what follows it. A tag between brackets has no handle, and neither has the tag
that is a single exclamation mark. -/
def tag (inFlow : Bool) (s : Cursor) : Except Fault ((List Char × List Char) × Cursor) := do
  let start := s.position
  let (parts, rest) ←
    if (s.right 1).peek == some '<' then do
      let (suffix, rest) ← tagSuffix false true [] start (s.right 2)
      if rest.peek == some '>' then .ok ((([], suffix) : List Char × List Char), rest.right 1)
      else failIn .tag start .noTagEnd rest
    else do
      let (handle, rest) ← tagHandle false start s
      if handle.length ≥ 2 && handle.getLast? == some '!' then do
        let (suffix, rest) ← tagSuffix false false [] start rest
        .ok ((handle, suffix), rest)
      else do
        let (suffix, rest) ← tagSuffix false false handle start rest
        .ok (if suffix.isEmpty then ([], ['!']) else (['!'], suffix), rest)
  if (inFlow && rest.peek == some ',') || endsWord rest.unread then .ok (parts, rest)
  else failIn .tag start .noWhitespaceOrLineBreak rest

/-! ## Directives -/

/-- A directive: the version of the format, or what a tag handle stands for. -/
inductive Directive where
  | version (major minor : Nat)
  | tagHandle (handle start : List Char)
  deriving DecidableEq, Repr

/-- Reads a number of at most nine digits. -/
def versionNumber (start : Position) (s : Cursor) : Except Fault (Nat × Cursor) :=
  let digits := s.takeWhile Char.isDigit
  if digits.length > 9 then failIn .versionDirective start .longVersion (s.right 9)
  else
    match natOfDigits? 10 digits with
    | none => failIn .versionDirective start .noVersion s
    | some n => .ok (n, s.right digits.length)

def versionDirective (start : Position) (s : Cursor) : Except Fault (Directive × Cursor) := do
  let (major, s) ← versionNumber start s.skipSpaces
  if s.peek ≠ some '.' then failIn .versionDirective start .noDigitOrDot s
  else
    let (minor, s) ← versionNumber start (s.right 1)
    .ok (.version major minor, s)

def tagDirective (start : Position) (s : Cursor) : Except Fault (Directive × Cursor) := do
  let (handle, s) ← tagHandle true start s.skipSpaces
  if !s.peek.any isSpace then failIn .tagDirective start .noWhitespace s
  else
    let (suffix, s) ← tagSuffix true true [] start s.skipSpaces
    if endsWord s.unread then .ok (.tagHandle handle suffix, s)
    else failIn .tagDirective start .noWhitespaceOrLineBreak s

/-- Reads a line that holds a directive. -/
def directive (s : Cursor) : Except Fault (Directive × Cursor) := do
  let start := s.position
  let name := (s.right 1).takeWhile isNameChar
  let s := s.right (1 + name.length)
  if name.isEmpty then failIn .directive start .noDirectiveName s
  else if !endsWord s.unread then failIn .directive start .unexpectedInDirectiveName s
  else
    let (d, s) ←
      if name == ['Y', 'A', 'M', 'L'] then versionDirective start s
      else if name == ['T', 'A', 'G'] then tagDirective start s
      else failIn .directive start .unknownDirective s
    match s.lineEnd? with
    | some s => .ok (d, s)
    | none => failIn .directive start .noLineEnd s.skipSpaces

end Storefront.Yaml
