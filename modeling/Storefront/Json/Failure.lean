import Storefront.Json.Basic
import Storefront.Number.Text
import Storefront.Text.Quoted
import Storefront.Text.Utf8

/-!
# Why a text is refused

The causes for which a JSON text, or a record read from one, is refused, and where they arise. A place is a
line and a column in bytes, both of what has been read when the cause shows.
-/

namespace Storefront.Json

open Storefront.Text

/-- What stood where something else was wanted. -/
inductive Found where
  | null
  | bool (b : Bool)
  | number (n : Number)
  | string (s : String)
  | array
  | object

inductive Cause where
  | endOfArray
  | endOfObject
  | endOfString
  | endOfValue
  | wantsColon
  | wantsCommaOrBracket
  | wantsCommaOrBrace
  | wantsIdentifier
  | wantsValue
  | badEscape
  | badNumber
  | numberRange
  | controlCharacter
  | keyNotString
  | loneSurrogate
  | halfSurrogatePair
  | trailingComma
  | trailingText
  | tooDeep
  | mismatch (found : Found) (wanted : String)
  | missingField (name : String)
  | repeatedField (name : String)
  | tooShort (size : Nat) (wanted : String)

def Number.text : Number → String
  | .natural n => Nat.repr n
  | .negative n => "-" ++ Nat.repr n
  | .float x => x.dataText

namespace Found

def describe : Found → String
  | null => "null"
  | bool b => "boolean `" ++ (if b then "true" else "false") ++ "`"
  | number (.float x) => "floating point `" ++ x.dataText ++ "`"
  | number n => "integer `" ++ n.text ++ "`"
  | string s => "string " ++ quoted s
  | array => "sequence"
  | object => "map"

end Found

namespace Cause

def message : Cause → String
  | endOfArray => "EOF while parsing a list"
  | endOfObject => "EOF while parsing an object"
  | endOfString => "EOF while parsing a string"
  | endOfValue => "EOF while parsing a value"
  | wantsColon => "expected `:`"
  | wantsCommaOrBracket => "expected `,` or `]`"
  | wantsCommaOrBrace => "expected `,` or `\x7d`"
  | wantsIdentifier => "expected ident"
  | wantsValue => "expected value"
  | badEscape => "invalid escape"
  | badNumber => "invalid number"
  | numberRange => "number out of range"
  | controlCharacter => "control character (\\u0000-\\u001F) found while parsing a string"
  | keyNotString => "key must be a string"
  | loneSurrogate => "lone leading surrogate in hex escape"
  | halfSurrogatePair => "unexpected end of hex escape"
  | trailingComma => "trailing comma"
  | trailingText => "trailing characters"
  | tooDeep => "recursion limit exceeded"
  | mismatch found wanted => "invalid type: " ++ found.describe ++ ", expected " ++ wanted
  | missingField name => "missing field `" ++ name ++ "`"
  | repeatedField name => "duplicate field `" ++ name ++ "`"
  | tooShort size wanted => "invalid length " ++ Nat.repr size ++ ", expected " ++ wanted

end Cause

/-- A cause, the text that was still unread when it arose, and how many bytes of that text it looked at. -/
structure Failure where
  cause : Cause
  unread : List Char
  ahead : Nat

/-- Line and column after a number of bytes: lines count from one, columns from zero. -/
def placeAfter (bytes : List UInt8) : Nat × Nat :=
  (bytes.count 0x0A + 1, (bytes.reverse.takeWhile (· != 0x0A)).length)

namespace Failure

def message (f : Failure) (text : List Char) : String :=
  let bytes := utf8 text
  let read := bytes.take (bytes.length - (utf8 f.unread).length + f.ahead)
  let (line, column) := placeAfter read
  f.cause.message ++ " at line " ++ Nat.repr line ++ " column " ++ Nat.repr column

end Failure

end Storefront.Json
