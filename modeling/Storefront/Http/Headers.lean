import Storefront.Http.ContentType

/-!
# Headers

The headers of a request. The case of the letters in a name does not matter, so names are kept in lower case;
a name has one value.
-/

namespace Storefront.Http

/-- A value without the blanks and tabs around it, which are no part of it. -/
def unpadded (value : List Char) : List Char :=
  let isBlank (c : Char) := c == ' ' || c == '\t'
  ((value.dropWhile isBlank).reverse.dropWhile isBlank).reverse

/-- Headers in the order of their names. -/
structure Headers where
  entries : List (String × String) := []
  deriving DecidableEq, Repr, Inhabited

namespace Headers

/-- Sets a header in a list that is sorted by name. -/
def insertEntry (name value : String) : List (String × String) → List (String × String)
  | [] => [(name, value)]
  | (n, v) :: rest =>
    if name == n then (name, value) :: rest
    else if name < n then (name, value) :: (n, v) :: rest
    else (n, v) :: insertEntry name value rest

/-- Sets a header, whatever it was before. -/
def set (h : Headers) (name value : String) : Headers :=
  ⟨insertEntry name value h.entries⟩

def get? (h : Headers) (name : String) : Option String :=
  List.lookup name h.entries

/-- Sets a header that is not there. -/
def setDefault (h : Headers) (name value : String) : Headers :=
  if (h.get? name).isSome then h else h.set name value

/-- Sets the headers of another list that are not there. -/
def withDefaults (h defaults : Headers) : Headers :=
  defaults.entries.foldl (fun h p => h.setDefault p.1 p.2) h

def sent (h : Headers) : List (String × String) :=
  h.entries.map fun (name, value) => (name, String.ofList (unpadded value.toList))

end Headers

/-- The longest name of a header. -/
def maxNameLength : Nat := 65535

/-- A name in the form in which it is kept, if it is one. -/
def headerName? (name : String) : Option String :=
  let cs := name.toList
  if cs.isEmpty || cs.length > maxNameLength || !cs.all isTokenChar then none
  else some (String.ofList (cs.map Char.toLower))

/-- A value has no control characters but tabs. -/
def isHeaderValue (value : List Char) : Bool :=
  value.all fun c => c == '\t' || (' ' ≤ c && c ≠ '\x7F')

end Storefront.Http
