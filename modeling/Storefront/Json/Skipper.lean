import Storefront.Json.Reader

/-!
# Passing over JSON

The value of a member that no record has a field for is passed over without being built. Less is asked of it
than of a value: surrogates need not be paired, numbers may have any size, and lists may lie in each
other to any depth.
-/

namespace Storefront.Json.Skip

/-- What may follow a backslash. -/
def escape (cs : List Char) : Except Failure (List Char) :=
  match cs with
  | [] => fail .endOfString []
  | 'u' :: rest => do
    let (_, rest) ← hex4 rest
    .ok rest
  | c :: rest =>
    if c == '"' || c == '\\' || c == '/' || c == 'b' || c == 'f' || c == 'n' || c == 'r' || c == 't' then
      .ok rest
    else failAhead .badEscape cs

/-- The text behind the closing quote of a string. -/
def stringTail : Nat → List Char → Except Failure (List Char)
  | 0, cs => fail .endOfString cs
  | fuel + 1, cs =>
    match cs with
    | [] => fail .endOfString []
    | '"' :: rest => .ok rest
    | '\\' :: rest => do stringTail fuel (← escape rest)
    | c :: rest => if c.toNat < 0x20 then fail .controlCharacter cs else stringTail fuel rest

/-- The digits of an exponent, from behind its letter. -/
def exponent (cs : List Char) : Except Failure (List Char) :=
  let cs := match cs with
    | '-' :: rest => rest
    | '+' :: rest => rest
    | cs => cs
  match cs with
  | [] => fail .badNumber []
  | c :: rest => if c.isDigit then .ok (rest.dropWhile Char.isDigit) else failAhead .badNumber cs

def afterDigits (cs : List Char) : Except Failure (List Char) :=
  match cs with
  | 'e' :: rest => exponent rest
  | 'E' :: rest => exponent rest
  | _ => .ok cs

/-- The text behind a number, from behind its sign. -/
def number (cs : List Char) : Except Failure (List Char) := do
  let rest ← match cs with
    | [] => fail .badNumber []
    | '0' :: rest =>
      match rest with
      | c :: _ => if c.isDigit then failAhead .badNumber rest else .ok rest
      | [] => .ok []
    | c :: rest => if c.isDigit then .ok (rest.dropWhile Char.isDigit) else failAhead .badNumber cs
  match rest with
  | '.' :: places =>
    if (places.head?.any Char.isDigit) then afterDigits (places.dropWhile Char.isDigit)
    else failAhead .badNumber places
  | rest => afterDigits rest

/-- What encloses the value being passed over. -/
inductive Frame where
  | list
  | object
  deriving DecidableEq, Repr

def Frame.endMissing : Frame → Cause
  | list => .endOfArray
  | object => .endOfObject

def Frame.commaMissing : Frame → Cause
  | list => .wantsCommaOrBracket
  | object => .wantsCommaOrBrace

def Frame.isEnd : Frame → Char → Bool
  | list, c => c == ']'
  | object, c => c == '\x7d'

/-- A key and its colon. -/
def key (cs : List Char) : Except Failure (List Char) :=
  match skipSpace cs with
  | [] => failAhead .endOfObject []
  | '"' :: rest => do colon (← stringTail (rest.length + 1) rest)
  | rest => failAhead .keyNotString rest

/-- What comes next: a value, or what may stand between values; a comma only once there has been one. -/
inductive Stage where
  | value
  | between (comma : Bool)

/-- The text behind the value. `frames` are the lists and objects that are open, innermost first. -/
def run : Nat → Stage → List Frame → List Char → Except Failure (List Char)
  | 0, _, _, cs => fail .endOfValue cs
  | fuel + 1, .value, frames, cs => do
    let scalar (rest : List Char) : Except Failure (List Char) :=
      if frames.isEmpty then .ok rest else run fuel (.between true) frames rest
    match skipSpace cs with
    | [] => failAhead .endOfValue []
    | 'n' :: rest => do scalar (← word ['u', 'l', 'l'] rest)
    | 't' :: rest => do scalar (← word ['r', 'u', 'e'] rest)
    | 'f' :: rest => do scalar (← word ['a', 'l', 's', 'e'] rest)
    | '-' :: rest => do scalar (← number rest)
    | '"' :: rest => do scalar (← stringTail (rest.length + 1) rest)
    | '[' :: rest => run fuel (.between false) (.list :: frames) rest
    | '\x7b' :: rest => run fuel (.between false) (.object :: frames) rest
    | c :: rest =>
      if c.isDigit then do scalar (← number (c :: rest)) else failAhead .wantsValue (c :: rest)
  | _ + 1, .between _, [], cs => .ok cs
  | fuel + 1, .between comma, frame :: outer, cs => do
    let element (rest : List Char) : Except Failure (List Char) := do
      match frame with
      | .list => run fuel .value (frame :: outer) rest
      | .object => run fuel .value (frame :: outer) (← key rest)
    match skipSpace cs with
    | [] => failAhead frame.endMissing []
    | c :: rest =>
      if comma && c == ',' then element rest
      else if frame.isEnd c then
        if outer.isEmpty then .ok rest else run fuel (.between true) outer rest
      else if comma then failAhead frame.commaMissing (c :: rest)
      else element (c :: rest)

end Storefront.Json.Skip

namespace Storefront.Json

/-- The text behind a value that is passed over. -/
def skipValue (cs : List Char) : Except Failure (List Char) :=
  Skip.run (2 * cs.length + 2) .value [] cs

end Storefront.Json
