import Storefront.Text.Encoding

/-!
# Content types

The encoding that the content type of a reply names. A content type is a type, a subtype and parameters.
-/

namespace Storefront.Http

open Storefront.Text

/-- The characters of a token. -/
def isTokenChar (c : Char) : Bool :=
  c.isAlphanum || ['!', '#', '$', '%', '&', '\'', '*', '+', '-', '.', '^', '_', '\x60', '|', '~'].contains c

/-- The characters between quotes. -/
def isQuotedChar (c : Char) : Bool :=
  ' ' ≤ c && c ≠ '\x7F'

/-- A value behind its opening quote, which has a character at least, and the text behind the next semicolon. -/
def quotedValue? (cs : List Char) : Option (List Char × List Char) :=
  match cs with
  | [] => none
  | c :: cs =>
    let value := c :: cs.takeWhile (· ≠ '"')
    match cs.dropWhile (· ≠ '"') with
    | [] => none
    | _ :: rest =>
      if !value.all isQuotedChar then none
      else
        match rest.dropWhile (· == ' ') with
        | [] => some (value, [])
        | ';' :: rest => some (value, rest)
        | _ => none

/-- A value that is a token, and the text behind the next semicolon. -/
def plainValue? (cs : List Char) : Option (List Char × List Char) :=
  let value := cs.takeWhile isTokenChar
  match cs.dropWhile isTokenChar with
  | [] => some (value, [])
  | ';' :: rest => if value.isEmpty then none else some (value, rest)
  | _ => none

def value? (cs : List Char) : Option (List Char × List Char) :=
  match cs with
  | '"' :: rest => quotedValue? rest
  | cs => plainValue? cs

/-- The parameters behind a semicolon. `fuel` is more than the length of the text. -/
def parameters? : Nat → List Char → Option (List (String × String))
  | 0, _ => none
  | fuel + 1, cs =>
    match cs.dropWhile (· == ' ') with
    | [] => some []
    | cs =>
      let name := cs.takeWhile isTokenChar
      match cs.dropWhile isTokenChar with
      | '=' :: rest =>
        if name.isEmpty then none
        else do
          let (value, rest) ← value? rest
          let more ← parameters? fuel rest
          some ((String.ofList (name.map Char.toLower), String.ofList value) :: more)
      | _ => none

/-- The parameters of a content type. -/
def contentParameters? (text : String) : Option (List (String × String)) :=
  let cs := text.toList
  let kind := cs.takeWhile isTokenChar
  match cs.dropWhile isTokenChar with
  | '/' :: rest =>
    let subtype := rest.takeWhile isTokenChar
    if kind.isEmpty then none
    else
      match rest.dropWhile isTokenChar with
      | [] => some []
      | ';' :: rest => if subtype.isEmpty then none else parameters? (rest.length + 1) rest
      | _ => none
  | _ => none

/-- The encoding that a content type in ASCII names. -/
def charset? (contentType : String) : Option Encoding := do
  if contentType.toList.all fun c => c == '\t' || (' ' ≤ c && c ≤ '~') then
    let parameters ← contentParameters? contentType
    Encoding.ofLabel? (← List.lookup "charset" parameters)
  else none

/-- The encoding of a body: UTF-8 unless its content type names another. -/
def encodingOf (contentType : Option String) : Encoding :=
  (contentType.bind charset?).getD .utf8

end Storefront.Http
