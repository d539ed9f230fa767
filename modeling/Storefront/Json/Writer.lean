import Storefront.Json.Failure
import Storefront.Text.Hex

/-!
# Writing JSON

Compact text: no white space, members in their order, control characters escaped, and nothing else but
quotes and backslashes. What is no finite number is written `null`.
-/

namespace Storefront.Json

open Storefront.Text

def writeChar (c : Char) : List Char :=
  match c with
  | '"' => ['\\', '"']
  | '\\' => ['\\', '\\']
  | '\x08' => ['\\', 'b']
  | '\x0C' => ['\\', 'f']
  | '\n' => ['\\', 'n']
  | '\r' => ['\\', 'r']
  | '\t' => ['\\', 't']
  | c =>
    if c.toNat < 0x20 then
      ['\\', 'u', '0', '0', hexDigitLower (c.toNat / 16), hexDigitLower (c.toNat % 16)]
    else [c]

def writeString (s : String) : List Char :=
  '"' :: s.toList.flatMap writeChar ++ ['"']

def writeFloat (x : Binary64) : List Char :=
  if x.isFinite then x.dataText.toList else ['n', 'u', 'l', 'l']

def writeNumber : Number → List Char
  | .float x => writeFloat x
  | n => n.text.toList

/-- Written items with commas between them. -/
def joined : List (List Char) → List Char
  | [] => []
  | [x] => x
  | x :: y :: rest => x ++ ',' :: joined (y :: rest)

def writeList (items : List (List Char)) : List Char :=
  '[' :: joined items ++ [']']

def writeObject (members : List (String × List Char)) : List Char :=
  '\x7b' :: joined (members.map fun m => writeString m.1 ++ ':' :: m.2) ++ ['\x7d']

def write : Value → List Char
  | .null => ['n', 'u', 'l', 'l']
  | .bool true => ['t', 'r', 'u', 'e']
  | .bool false => ['f', 'a', 'l', 's', 'e']
  | .number n => writeNumber n
  | .string s => writeString s
  | .array xs => writeList (xs.attach.map fun ⟨x, _⟩ => write x)
  | .object ms => writeObject (ms.attach.map fun ⟨m, _⟩ => (m.1, write m.2))
termination_by v => sizeOf v
decreasing_by
  all_goals simp_wf
  · have := List.sizeOf_lt_of_mem ‹_ ∈ xs›
    omega
  · rename_i h
    have := List.sizeOf_lt_of_mem h
    cases m
    simp_all
    omega

end Storefront.Json
