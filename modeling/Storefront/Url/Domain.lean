import Storefront.Text.Utf8
import Storefront.Url.Address
import Storefront.Url.Domain.Direction
import Storefront.Url.Domain.Joining
import Storefront.Url.Domain.Mapping
import Storefront.Url.Escaping
import Storefront.Url.Punycode

/-!
# Domain names

The ASCII form of a host name: every character mapped, and labels outside ASCII in Punycode. A name that breaks a
rule of internationalised names, or has a character that no host may hold, has none.
-/

namespace Storefront.Url.Domain

open Storefront.Text

/-- ASCII characters that no host name holds. -/
def isForbidden (c : Char) : Bool :=
  isControl c || c == ' ' || c == '#' || c == '%' || c == '/' || c == ':' || c == '<' || c == '>' || c == '?' ||
    c == '@' || c == '[' || c == '\\' || c == ']' || c == '^' || c == '|'

def isAscii (cs : List Char) : Bool :=
  cs.all fun c => c.toNat < 0x80

/-- A label as it is read, and in its ASCII form. -/
structure Label where
  text : List Char
  ascii : List Char
  deriving DecidableEq, Repr

namespace Label

/-- What begins the ASCII form of a label outside ASCII. -/
def mark : List Char := ['x', 'n', '-', '-']

/-- The most characters of a label outside ASCII. -/
def longest : Nat := 1000

/-- The most characters of its Punycode, if it comes in that. -/
def longestCode : Nat := 2000

/-- A label outside ASCII is not too long and does not begin with a combining mark, and its joiners stand where they
may. -/
def isValid (text : List Char) : Bool :=
  text.length ≤ longest && !(text.head?.any isMark) && joinersFit [] text

/-- Reads a mapped label. One in Punycode stands for a text outside ASCII that mapping would leave as it is. -/
def read? (label : List Char) : Option Label :=
  if label.take mark.length == mark then
    let code := label.drop mark.length
    match if isAscii code && code.length ≤ longestCode then Punycode.decode? code else none with
    | none => none
    | some text =>
      if !isAscii text && mapped? text == some text && isValid text then some { text, ascii := label } else none
  else if isAscii label then some { text := label, ascii := label }
  else if isValid label then some { text := label, ascii := mark ++ Punycode.encode label }
  else none

end Label

/-- The ASCII form of a name. -/
def toAscii? (bytes : List UInt8) : Option (List Char) := do
  let name ← mapped? (decodeLossy bytes)
  let labels ← (splitAt (· == '.') name).mapM Label.read?
  let ascii := ['.'].intercalate (labels.map (·.ascii))
  if ascii.any isForbidden then none
  else if labels.any (isLeftward ·.text) && !labels.all (hasOneDirection ·.text) then none
  else some ascii

end Storefront.Url.Domain
