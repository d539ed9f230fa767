import Storefront.Text.Utf8
import Storefront.Yaml.Position

/-!
# Reading a YAML text from front to back
-/

namespace Storefront.Yaml

def isSpace (c : Char) : Bool :=
  c == ' ' || c == '\t'

def isBreak (c : Char) : Bool :=
  c == '\n' || c == '\r' || c == '\x85' || c == '\u2028' || c == '\u2029'

/-- The characters of the names of anchors, tags and directives. -/
def isNameChar (c : Char) : Bool :=
  c.isAlphanum || c == '_' || c == '-'

/-- White space or the end of the text follows. -/
def endsWord (cs : List Char) : Bool :=
  match cs with
  | [] => true
  | c :: _ => isSpace c || isBreak c

/-- What is left of a text, and where that begins. -/
structure Cursor where
  unread : List Char
  position : Position := {}
  deriving DecidableEq, Repr

namespace Cursor

def peek (s : Cursor) : Option Char :=
  s.unread.head?

def column (s : Cursor) : Nat :=
  s.position.column

/-- Passes `n` characters of a line. -/
def right (s : Cursor) (n : Nat) : Cursor :=
  ⟨s.unread.drop n, s.position.right n (Text.utf8 (s.unread.take n)).length⟩

/-- The characters up to the first that fails `p`, which holds of no line break. -/
def takeWhile (s : Cursor) (p : Char → Bool) : List Char :=
  s.unread.takeWhile p

def skipWhile (s : Cursor) (p : Char → Bool) : Cursor :=
  s.right (s.takeWhile p).length

/-- What a line break stands for, and the place behind it. A line feed stands for all of them that do not
separate lines or paragraphs. -/
def lineBreak? (s : Cursor) : Option (Char × Cursor) :=
  match s.unread with
  | '\r' :: '\n' :: rest => some ('\n', ⟨rest, s.position.down 2⟩)
  | c :: rest =>
    if c == '\u2028' || c == '\u2029' then some (c, ⟨rest, s.position.down c.utf8Size⟩)
    else if isBreak c then some ('\n', ⟨rest, s.position.down c.utf8Size⟩)
    else none
  | [] => none

def skipSpaces (s : Cursor) : Cursor :=
  s.skipWhile isSpace

def skipComment (s : Cursor) : Cursor :=
  if s.peek == some '#' then s.skipWhile fun c => !isBreak c else s

def skipLineBreak (s : Cursor) : Cursor :=
  match s.lineBreak? with
  | some (_, s) => s
  | none => s

/-- The rest of a line, if it holds nothing but a comment. -/
def lineEnd? (s : Cursor) : Option Cursor :=
  let s := s.skipSpaces.skipComment
  match s.unread with
  | [] => some s
  | c :: _ => if isBreak c then some s.skipLineBreak else none

/-- Three times `c` at the start of a line and nothing behind it. -/
def atMarker (s : Cursor) (c : Char) : Bool :=
  s.column == 0 && s.unread.take 3 == [c, c, c] && endsWord (s.unread.drop 3)

/-- A line that begins or ends a document. -/
def atDocumentMarker (s : Cursor) : Bool :=
  s.atMarker '-' || s.atMarker '.'

/-- Passes white space, comments and line breaks, and at the start of a line a byte order mark. A tab is passed
only in flow style or where no key may begin; in block style a key may begin in a new line. `fuel` is more than
the length of the text. -/
def toToken (inFlow : Bool) : Nat → Bool → Cursor → Bool × Cursor
  | 0, allowed, s => (allowed, s)
  | fuel + 1, allowed, s =>
    let s := if s.column == 0 && s.peek == some '\uFEFF' then s.right 1 else s
    let s := s.skipWhile fun c => c == ' ' || (c == '\t' && (inFlow || !allowed))
    let s := s.skipComment
    match s.lineBreak? with
    | some (_, s) => toToken inFlow fuel (allowed || !inFlow) s
    | none => (allowed, s)

end Cursor

end Storefront.Yaml
