import Storefront.Text.Form
import Storefront.Url.Reader

/-!
# Locations

Where a visitor is: a path and ordered query parameters, whose keys may repeat. The written form leaves out
scheme and host.
-/

namespace Storefront

open Storefront.Text

structure Location where
  path : String
  pairs : List (String × String)
  deriving DecidableEq, Repr, Inhabited

/-- A text that is no location. -/
structure Location.ParseError where
  href : String
  cause : Url.ParseError
  deriving DecidableEq, Repr

namespace Location

def ParseError.message (e : ParseError) : String :=
  "invalid location '" ++ e.href ++ "': " ++ e.cause.message

/-- What relative references are resolved against. It shows in no written form. -/
def origin : Url.Origin :=
  { scheme := "http", authority := { userinfo := "", host := "localhost", port := none } }

/-- A location without parameters. -/
def atPath (path : String) : Location :=
  { path, pairs := [] }

def ofUrl (u : Url) : Location :=
  { path := u.path
    pairs := match u.query with
      | none => []
      | some query => Form.decode (utf8 query.toList) }

/-- The location that an absolute URL or a relative reference names. -/
def parse (href : String) : Except ParseError Location :=
  match Url.read (some origin) href with
  | .ok url => .ok (ofUrl url)
  | .error cause => .error { href, cause }

/-- The values of a key in their order. -/
def getAll (l : Location) (key : String) : List String :=
  (l.pairs.filter fun p => p.1 == key).map Prod.snd

/-- The first value of a key. -/
def get? (l : Location) (key : String) : Option String :=
  (l.pairs.find? fun p => p.1 == key).map Prod.snd

def append (l : Location) (key value : String) : Location :=
  { l with pairs := l.pairs ++ [(key, value)] }

def delete (l : Location) (key : String) : Location :=
  { l with pairs := l.pairs.filter fun p => p.1 != key }

/-- The pairs with the first one of `key` given a new value and its later ones left out. -/
def setFirst (key value : String) : List (String × String) → List (String × String)
  | [] => []
  | p :: ps =>
    if p.1 == key then (key, value) :: ps.filter fun q => q.1 != key
    else p :: setFirst key value ps

/-- Gives a key one value, where its first one stands or else at the end. -/
def set (l : Location) (key value : String) : Location :=
  if l.pairs.any fun p => p.1 == key then { l with pairs := setFirst key value l.pairs }
  else l.append key value

def setPath (l : Location) (path : String) : Location :=
  { l with path }

def queryString (l : Location) : String :=
  String.ofList (Form.encode l.pairs)

def href (l : Location) : String :=
  if l.pairs.isEmpty then l.path else l.path ++ "?" ++ l.queryString

end Location

end Storefront
