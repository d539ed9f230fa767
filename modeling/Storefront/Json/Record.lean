import Storefront.Json.Skipper

/-!
# Reading records

A record is read from an object, whose members may come in any order and may include others, or from a list
that holds the fields in their order.
-/

namespace Storefront.Json

/-- A field of a record under way: its name, whether it has been read, and its reader. -/
structure Member (σ : Type) where
  name : String
  isSet : σ → Bool
  read : σ → Reader σ

/-- The cause that something stands where a record or a string was wanted. A scalar is read first, so that it
can be shown. -/
def refuse {α : Type} (wanted : String) (cs : List Char) : Except Failure α := do
  match cs with
  | [] => failAhead .endOfValue []
  | 'n' :: rest => fail (.mismatch .null wanted) (← word ['u', 'l', 'l'] rest)
  | 't' :: rest => fail (.mismatch (.bool true) wanted) (← word ['r', 'u', 'e'] rest)
  | 'f' :: rest => fail (.mismatch (.bool false) wanted) (← word ['a', 'l', 's', 'e'] rest)
  | '-' :: rest =>
    let (n, rest) ← number true rest
    fail (.mismatch (.number n) wanted) rest
  | '"' :: rest =>
    let (s, rest) ← stringTail rest
    fail (.mismatch (.string s) wanted) rest
  | '[' :: rest => fail (.mismatch .array wanted) ('[' :: rest)
  | '\x7b' :: rest => fail (.mismatch .object wanted) ('\x7b' :: rest)
  | c :: rest =>
    if c.isDigit then
      let (n, rest) ← number false (c :: rest)
      fail (.mismatch (.number n) wanted) rest
    else failAhead .wantsValue (c :: rest)

/-- A string and nothing else. -/
def string (cs : List Char) : Except Failure (String × List Char) :=
  match skipSpace cs with
  | '"' :: rest => stringTail rest
  | rest => refuse "a string" rest

/-- A list and nothing else, which lies in `127 - depth` others. -/
def list {α : Type} (depth : Nat) (item : Nat → Reader α) (cs : List Char) :
    Except Failure (List α × List Char) :=
  match skipSpace cs with
  | '[' :: rest =>
    match depth with
    | 0 => failAhead .tooDeep ('[' :: rest)
    | depth + 1 => listTail (item depth) rest
  | rest => refuse "a sequence" rest

/-- `null` for nothing, or a value. -/
def optional {α : Type} (item : Reader α) (cs : List Char) : Except Failure (Option α × List Char) := do
  match skipSpace cs with
  | 'n' :: rest => .ok (none, ← word ['u', 'l', 'l'] rest)
  | rest =>
    let (x, rest) ← item rest
    .ok (some x, rest)

/-- The text behind the closing brace, if it is what follows. -/
def closed (cs : List Char) : List Char :=
  match skipSpace cs with
  | '\x7d' :: rest => rest
  | rest => rest

/-- Reads the member with a key into a record, or passes over it. -/
def recordMember {σ : Type} (fields : List (Member σ)) (acc : σ) (key : String) (cs : List Char) :
    Except Failure (σ × List Char) := do
  match fields.find? fun f => f.name == key with
  | none => .ok (acc, ← skipValue (← colon cs))
  | some f =>
    if f.isSet acc then fail (.repeatedField key) (closed cs)
    else f.read acc (← colon cs)

/-- The end of a list in which no field is left to be read. -/
def listEnd (cs : List Char) : Except Failure (List Char) :=
  match skipSpace cs with
  | [] => failAhead .endOfArray []
  | ']' :: rest => .ok rest
  | ',' :: rest =>
    match skipSpace rest with
    | ']' :: rest => failAhead .trailingComma (']' :: rest)
    | rest => failAhead .trailingText rest
  | rest => failAhead .trailingText rest

/-- Reads the fields from the items of a list; how many there were. -/
def recordItems {σ : Type} (first : Bool) (acc : σ) (count : Nat) :
    List (Member σ) → List Char → Except Failure ((σ × Nat) × List Char)
  | [], cs => do .ok ((acc, count), ← listEnd cs)
  | f :: fs, cs => do
    let next (cs : List Char) : Except Failure ((σ × Nat) × List Char) := do
      let (acc, rest) ← f.read acc cs
      recordItems false acc (count + 1) fs rest
    match skipSpace cs with
    | [] => failAhead .endOfArray []
    | ']' :: rest => .ok ((acc, count), rest)
    | c :: rest =>
      if first then next (c :: rest)
      else if c == ',' then
        match skipSpace rest with
        | [] => failAhead .endOfValue []
        | ']' :: rest => failAhead .trailingComma (']' :: rest)
        | rest => next rest
      else failAhead .wantsCommaOrBracket (c :: rest)

/-- The fields of a record and, if it was written as a list, how many items that had. `fields` is given how
deep a field may still be. -/
def record {σ : Type} (wanted : String) (fields : Nat → List (Member σ)) (start : σ) (depth : Nat)
    (cs : List Char) : Except Failure ((σ × Option Nat) × List Char) :=
  match skipSpace cs with
  | '[' :: rest =>
    match depth with
    | 0 => failAhead .tooDeep ('[' :: rest)
    | depth + 1 => do
      let ((acc, count), rest) ← recordItems true start 0 (fields depth) rest
      .ok ((acc, some count), rest)
  | '\x7b' :: rest =>
    match depth with
    | 0 => failAhead .tooDeep ('\x7b' :: rest)
    | depth + 1 => do
      let (acc, rest) ← objectTail (recordMember (fields depth)) start rest
      .ok ((acc, none), rest)
  | rest => refuse wanted rest

end Storefront.Json
