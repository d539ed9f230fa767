import Storefront.Json.Failure

/-!
# Reading JSON

Readers take the front of a text and leave the rest. The readers of lists and objects are given the reader
of what they hold, so that records can be read as easily as values.
-/

namespace Storefront.Json

open Storefront.Text

/-- Takes a value off the front of a text, or finds a cause to refuse it. -/
abbrev Reader (α : Type) := List Char → Except Failure (α × List Char)

/-- A cause that shows after all that has been read. -/
def fail {α : Type} (cause : Cause) (unread : List Char) : Except Failure α :=
  .error ⟨cause, unread, 0⟩

/-- A cause that shows in the next character, which counts as read. -/
def failAhead {α : Type} (cause : Cause) (unread : List Char) : Except Failure α :=
  .error ⟨cause, unread, 1⟩

def isSpace (c : Char) : Bool :=
  c == ' ' || c == '\n' || c == '\t' || c == '\r'

def skipSpace (cs : List Char) : List Char :=
  cs.dropWhile isSpace

/-- Reads the letters of a word, whose first one has been seen. -/
def word : List Char → List Char → Except Failure (List Char)
  | [], cs => .ok cs
  | _ :: _, [] => fail .endOfValue []
  | w :: ws, c :: cs => if c == w then word ws cs else failAhead .wantsIdentifier (c :: cs)

/-! ## Strings -/

/-- The value of four hexadecimal digits. Four bytes count as read whatever they are. -/
def hex4 (cs : List Char) : Except Failure (Nat × List Char) :=
  match cs with
  | a :: b :: c :: d :: rest =>
    match hexValue a, hexValue b, hexValue c, hexValue d with
    | some w, some x, some y, some z => .ok (((w * 16 + x) * 16 + y) * 16 + z, rest)
    | _, _, _, _ => .error ⟨.badEscape, cs, 4⟩
  | _ =>
    if (utf8 cs).length ≥ 4 then .error ⟨.badEscape, cs, 4⟩ else fail .endOfString []

def isHighSurrogate (n : Nat) : Bool :=
  0xD800 ≤ n && n ≤ 0xDBFF

def isLowSurrogate (n : Nat) : Bool :=
  0xDC00 ≤ n && n ≤ 0xDFFF

/-- The second half of a character written as two escapes. -/
def lowHalf (high : Nat) (cs : List Char) : Except Failure (Char × List Char) :=
  match cs with
  | [] => fail .endOfString []
  | '\\' :: rest =>
    match rest with
    | [] => fail .endOfString []
    | 'u' :: rest => do
      let (low, rest) ← hex4 rest
      if isLowSurrogate low then
        .ok (Char.ofNat ((high - 0xD800) * 0x400 + (low - 0xDC00) + 0x10000), rest)
      else fail .loneSurrogate rest
    | _ => failAhead .halfSurrogatePair rest
  | _ => failAhead .halfSurrogatePair cs

/-- The character that an escape stands for, from behind its backslash. -/
def escape (cs : List Char) : Except Failure (Char × List Char) :=
  match cs with
  | [] => fail .endOfString []
  | '"' :: rest => .ok ('"', rest)
  | '\\' :: rest => .ok ('\\', rest)
  | '/' :: rest => .ok ('/', rest)
  | 'b' :: rest => .ok ('\x08', rest)
  | 'f' :: rest => .ok ('\x0C', rest)
  | 'n' :: rest => .ok ('\n', rest)
  | 'r' :: rest => .ok ('\r', rest)
  | 't' :: rest => .ok ('\t', rest)
  | 'u' :: rest => do
    let (n, rest) ← hex4 rest
    if isLowSurrogate n then fail .loneSurrogate rest
    else if isHighSurrogate n then lowHalf n rest
    else .ok (Char.ofNat n, rest)
  | _ => failAhead .badEscape cs

/-- The characters up to the closing quote. `fuel` is at least the length of the text. -/
def stringChars : Nat → List Char → Except Failure (List Char × List Char)
  | 0, cs => fail .endOfString cs
  | fuel + 1, cs =>
    match cs with
    | [] => fail .endOfString []
    | '"' :: rest => .ok ([], rest)
    | '\\' :: rest => do
      let (c, rest) ← escape rest
      let (out, rest) ← stringChars fuel rest
      .ok (c :: out, rest)
    | c :: rest =>
      if c.toNat < 0x20 then failAhead .controlCharacter cs
      else do
        let (out, rest) ← stringChars fuel rest
        .ok (c :: out, rest)

/-- A string from behind its opening quote. -/
def stringTail (cs : List Char) : Except Failure (String × List Char) := do
  let (out, rest) ← stringChars (cs.length + 1) cs
  .ok (String.ofList out, rest)

/-! ## Numbers -/

/-- Digits are added to a significand as long as it stays below `2 ^ 64`. -/
def fits (significand digit : Nat) : Bool :=
  significand * 10 + digit < twoTo 64

/-- `± significand * 10 ^ exponent` by repeated rounding: the significand is rounded first, then each
product or quotient with a power of ten up to `10 ^ 308`. `none` if it leaves the range of numbers. -/
def scaled (negative : Bool) (significand : Nat) (exponent : Int) : Option Binary64 :=
  let signed (x : Binary64) := if negative then x.neg else x
  let rec shrink (x : Binary64) (places : Nat) : Nat → Binary64
    | 0 => x
    | more + 1 =>
      if places ≤ 308 then x.div (Binary64.ofNat (tenTo places))
      else if x.isZero then x
      else shrink (x.div (Binary64.ofNat (tenTo 308))) (places - 308) more
  let x := Binary64.ofNat significand
  match exponent with
  | .ofNat e =>
    if e ≤ 308 then
      let y := x.mul (Binary64.ofNat (tenTo e))
      if y.isFinite then some (signed y) else none
    else if x.isZero then some (signed x)
    else none
  | .negSucc e => some (signed (shrink x (e + 1) 4))

def takeDigits (cs : List Char) : List Char × List Char :=
  (cs.takeWhile Char.isDigit, cs.dropWhile Char.isDigit)

def digit (c : Char) : Nat :=
  c.toNat - 0x30

/-- Adds digits to a significand while they fit; how many were added, and the digits that were not. -/
def accumulate (significand added : Nat) : List Char → Nat × Nat × List Char
  | [] => (significand, added, [])
  | c :: cs =>
    if fits significand (digit c) then accumulate (significand * 10 + digit c) (added + 1) cs
    else (significand, added, c :: cs)

def float (negative : Bool) (significand : Nat) (exponent : Int) (rest : List Char) :
    Except Failure (Number × List Char) :=
  match scaled negative significand exponent with
  | some x => .ok (.float x, rest)
  | none => fail .numberRange rest

/-- The exponents that are read; a larger one stands for zero or for more than any number. -/
def exponentLimit : Nat := twoTo 31

/-- How many digits of an exponent stay below the limit, and its value. -/
def exponentDigits (value : Nat) : List Char → Nat × List Char
  | [] => (value, [])
  | c :: cs =>
    if value * 10 + digit c < exponentLimit then exponentDigits (value * 10 + digit c) cs
    else (value, c :: cs)

/-- An exponent from behind its letter. `exponent` is what the point has moved already. -/
def exponentTail (negative : Bool) (significand : Nat) (exponent : Int) (cs : List Char) :
    Except Failure (Number × List Char) :=
  let (down, cs) := match cs with
    | '-' :: rest => (true, rest)
    | '+' :: rest => (false, rest)
    | cs => (false, cs)
  match cs with
  | [] => fail .endOfValue []
  | c :: _ =>
    if !c.isDigit then failAhead .badNumber cs
    else
      let (digits, rest) := takeDigits cs
      let (value, excess) := exponentDigits 0 digits
      if excess.isEmpty then
        float negative significand (if down then exponent - value else exponent + value) rest
      else if significand != 0 && !down then fail .numberRange (excess.drop 1 ++ rest)
      else .ok (.float (Binary64.zero negative), rest)

/-- What may follow the digits of a number. -/
def afterPlaces (negative : Bool) (significand : Nat) (exponent : Int) (cs : List Char) :
    Except Failure (Number × List Char) :=
  match cs with
  | 'e' :: rest => exponentTail negative significand exponent rest
  | 'E' :: rest => exponentTail negative significand exponent rest
  | _ => float negative significand exponent cs

/-- Decimal places from behind the point. -/
def places (negative : Bool) (significand : Nat) (exponent : Int) (cs : List Char) :
    Except Failure (Number × List Char) :=
  let (digits, rest) := takeDigits cs
  if digits.isEmpty then
    match cs with
    | [] => failAhead .endOfValue []
    | _ => failAhead .badNumber cs
  else
    let (value, added, _) := accumulate significand 0 digits
    afterPlaces negative value (exponent - added) rest

/-- A number from behind its sign. -/
def number (negative : Bool) (cs : List Char) : Except Failure (Number × List Char) :=
  let (digits, rest) := takeDigits cs
  match digits with
  | [] =>
    match cs with
    | [] => fail .endOfValue []
    | _ => failAhead .badNumber cs
  | '0' :: _ :: _ => failAhead .badNumber (cs.drop 1)
  | digits =>
    let (value, _, excess) := accumulate 0 0 digits
    let fraction := match rest with
      | '.' :: after => some (places negative value excess.length after)
      | 'e' :: after => some (exponentTail negative value excess.length after)
      | 'E' :: after => some (exponentTail negative value excess.length after)
      | _ => none
    match fraction with
    | some read => read
    | none =>
      if !excess.isEmpty then float negative value excess.length rest
      else if !negative then .ok (.natural value, rest)
      else if value == 0 || value > twoTo 63 then .ok (.float (Binary64.ofRatio true value 1), rest)
      else .ok (.negative value, rest)

/-! ## Lists and objects -/

/-- The items up to the closing bracket. `first` until one has been read. -/
def items {α : Type} (item : Reader α) : Nat → Bool → Reader (List α)
  | 0, _, cs => fail .endOfArray cs
  | fuel + 1, first, cs => do
    let next (cs : List Char) : Except Failure (List α × List Char) := do
      let (x, rest) ← item cs
      let (xs, rest) ← items item fuel false rest
      .ok (x :: xs, rest)
    match skipSpace cs with
    | [] => failAhead .endOfArray []
    | ']' :: rest => .ok ([], rest)
    | c :: rest =>
      if first then next (c :: rest)
      else if c == ',' then
        match skipSpace rest with
        | [] => failAhead .endOfValue []
        | ']' :: rest => failAhead .trailingComma (']' :: rest)
        | rest => next rest
      else failAhead .wantsCommaOrBracket (c :: rest)

/-- A list from behind its opening bracket. -/
def listTail {α : Type} (item : Reader α) (cs : List Char) :
    Except Failure (List α × List Char) :=
  items item (cs.length + 1) true cs

/-- The colon between a key and its value. -/
def colon (cs : List Char) : Except Failure (List Char) :=
  match skipSpace cs with
  | [] => failAhead .endOfObject []
  | ':' :: rest => .ok rest
  | rest => failAhead .wantsColon rest

/-- Reads members up to the closing brace. `member` is given what has been gathered, the key, and the text
behind the key. -/
def members {σ : Type} (member : σ → String → Reader σ) : Nat → Bool → σ → Reader σ
  | 0, _, _, cs => fail .endOfObject cs
  | fuel + 1, first, acc, cs => do
    let next (cs : List Char) : Except Failure (σ × List Char) := do
      let (key, rest) ← stringTail cs
      let (acc, rest) ← member acc key rest
      members member fuel false acc rest
    match skipSpace cs with
    | [] => failAhead .endOfObject []
    | '\x7d' :: rest => .ok (acc, rest)
    | c :: rest =>
      if first then
        if c == '"' then next rest else failAhead .keyNotString (c :: rest)
      else if c == ',' then
        match skipSpace rest with
        | [] => failAhead .endOfValue []
        | '"' :: rest => next rest
        | '\x7d' :: rest => failAhead .trailingComma ('\x7d' :: rest)
        | rest => failAhead .keyNotString rest
      else failAhead .wantsCommaOrBrace (c :: rest)

/-- An object from behind its opening brace. -/
def objectTail {σ : Type} (member : σ → String → Reader σ) (start : σ) (cs : List Char) :
    Except Failure (σ × List Char) :=
  members member (cs.length + 1) true start cs

/-! ## Values -/

/-- How deep lists and objects may lie in each other. -/
def depthLimit : Nat := 127

/-- Any value, at most `depth` lists and objects deep. -/
def value (depth : Nat) (cs : List Char) : Except Failure (Value × List Char) :=
  match skipSpace cs with
  | [] => failAhead .endOfValue []
  | 'n' :: rest => do .ok (.null, ← word ['u', 'l', 'l'] rest)
  | 't' :: rest => do .ok (.bool true, ← word ['r', 'u', 'e'] rest)
  | 'f' :: rest => do .ok (.bool false, ← word ['a', 'l', 's', 'e'] rest)
  | '-' :: rest => do
    let (n, rest) ← number true rest
    .ok (.number n, rest)
  | '"' :: rest => do
    let (s, rest) ← stringTail rest
    .ok (.string s, rest)
  | '[' :: rest =>
    match depth with
    | 0 => failAhead .tooDeep ('[' :: rest)
    | depth + 1 => do
      let (xs, rest) ← listTail (value depth) rest
      .ok (.array xs, rest)
  | '\x7b' :: rest =>
    match depth with
    | 0 => failAhead .tooDeep ('\x7b' :: rest)
    | depth + 1 => do
      let (ms, rest) ← objectTail (fun ms key rest => do
        let rest ← colon rest
        let (v, rest) ← value depth rest
        .ok ((key, v) :: ms, rest)) [] rest
      .ok (.object ms.reverse, rest)
  | c :: rest =>
    if c.isDigit then do
      let (n, rest) ← number false (c :: rest)
      .ok (.number n, rest)
    else failAhead .wantsValue (c :: rest)

/-- Nothing but white space may follow what was read. -/
def ended {α : Type} (read : Except Failure (α × List Char)) : Except Failure α := do
  let (x, rest) ← read
  match skipSpace rest with
  | [] => .ok x
  | rest => failAhead .trailingText rest

end Storefront.Json
