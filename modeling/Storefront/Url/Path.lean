import Storefront.Url.Address
import Storefront.Url.Basic
import Storefront.Url.Escaping

/-!
# Hierarchical paths

A path is a list of segments. Reading one escapes each segment, drops the segments that are one dot and
lets two dots take away the segment before, unless that is the root or a drive letter. Tabs and line breaks do
not count, except behind the drive letter that begins a file path.
-/

namespace Storefront.Url

open Storefront.Text

/-- A path under way: the segments that a slash has ended, last one first, and the text behind them. -/
structure Trail where
  directories : List (List Char) := []
  last : List Char := []
  /-- The first segment is a drive letter. -/
  onDrive : Bool := false
  deriving DecidableEq, Repr

def isTabOrBreak (c : Char) : Bool :=
  c == '\t' || c == '\n' || c == '\r'

/-- A text without tabs and line breaks. -/
def joined (text : List Char) : List Char :=
  text.filter (!isTabOrBreak ·)

def isSingleDot (segment : List Char) : Bool :=
  segment == ['.'] || segment == ['%', '2', 'e'] || segment == ['%', '2', 'E']

/-- A dot, plain or escaped, at the front, and the rest. -/
def afterDot? : List Char → Option (List Char)
  | '.' :: rest => some rest
  | '%' :: '2' :: 'e' :: rest => some rest
  | '%' :: '2' :: 'E' :: rest => some rest
  | _ => none

def isDoubleDot (segment : List Char) : Bool :=
  ((afterDot? segment).bind afterDot?) == some []

def isLetter (c : Char) : Bool :=
  c.isAlpha

/-- A letter and a colon or bar. -/
def isDrive : List Char → Bool
  | [c, d] => isLetter c && (d == ':' || d == '|')
  | _ => false

/-- A drive letter, whatever follows a backslash behind it. -/
def startsAtDrive : List Char → Bool
  | c :: d :: rest => isDrive [c, d] && rest.head?.all (· == '\\')
  | _ => false

namespace Trail

/-- Up to the directory above. The root has none, and a drive letter is not left. -/
def up (t : Trail) : Trail :=
  match t.directories with
  | [] => { t with last := [] }
  | name :: above => { t with directories := if startsAtDrive name then name :: above else above, last := [] }

/-- On to a segment; `ended` tells whether a slash ended it. -/
def add (t : Trail) (segment : List Char) (ended : Bool) : Trail :=
  if ended then { t with directories := segment :: t.directories, last := [] }
  else { t with last := segment }

/-- On to a segment that may be one or two dots. -/
def enter (t : Trail) (segment : List Char) (ended : Bool) : Trail :=
  if isDoubleDot segment then t.up
  else if isSingleDot segment then { t with last := [] }
  else t.add segment ended

/-- A letter and a colon that a tab or a line break parts from what follows, and that. -/
def parted? (segment : List Char) : Option (List Char × List Char) :=
  match segment.dropWhile isTabOrBreak with
  | [] => none
  | c :: rest =>
    match rest.dropWhile isTabOrBreak with
    | ':' :: d :: rest =>
      if isLetter c && isTabOrBreak d && !(joined rest).isEmpty then some ([c, ':'], joined rest) else none
    | _ => none

/-- On to a segment of a file path, where a drive letter that begins the path is written with a colon. -/
def enterFile (t : Trail) (segment : List Char) (ended : Bool) : Trail :=
  match t.directories with
  | _ :: _ => t.enter (Percent.encode keptInPath (joined segment)) ended
  | [] =>
    match parted? segment with
    | some (drive, rest) => { t with directories := [drive] }.add (Percent.encode keptInPath rest) ended
    | none =>
      match joined segment with
      | [c, d] =>
        if isDrive [c, d] then { t with onDrive := true }.add [c, ':'] ended
        else t.enter (Percent.encode keptInPath [c, d]) ended
      | segment => t.enter (Percent.encode keptInPath segment) ended

/-- On to segments, of which a slash ends all but the last. -/
def follow (enter : Trail → List Char → Bool → Trail) (t : Trail) : List (List Char) → Trail
  | [] => t
  | [segment] => enter t segment false
  | segment :: rest => follow enter (enter t segment true) rest

def text (t : Trail) : List Char :=
  '/' :: t.directories.reverse.flatMap (fun d => d ++ ['/']) ++ t.last

end Trail

/-- The path that a text behind the first slash describes. -/
def readPath (kind : Kind) (text : List Char) : List Char :=
  let enter (t : Trail) (segment : List Char) (ended : Bool) : Trail :=
    t.enter (Percent.encode keptInPath segment) ended
  (Trail.follow enter {} (splitAt kind.isSlash text)).text

/-- The path of a file that a text describes, and whether a drive letter begins it. Several slashes at the
front count as one. -/
def readFilePath (text : List Char) : List Char × Bool :=
  let trail := Trail.follow Trail.enterFile {} (splitAt Kind.file.isSlash text)
  ('/' :: trail.text.dropWhile (· == '/'), trail.onDrive)

end Storefront.Url
