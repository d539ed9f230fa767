import Storefront.Json.Record
import Storefront.Json.Writer
import Storefront.SearchState

/-!
# Requests to the backend

The bodies of the two requests, as JSON records.
-/

namespace Storefront

open Storefront.Json

/-- Asks what a text could be completed to. -/
structure SuggestionRequest where
  query : String
  deriving DecidableEq, Repr, Inhabited

/-- Asks for the products that match a query in some categories. -/
structure SearchRequest where
  query : String
  classes : List String
  deriving DecidableEq, Repr, Inhabited

namespace SuggestionRequest

def write (r : SuggestionRequest) : List Char :=
  writeObject [("query", writeString r.query)]

def fields : List (Member (Option String)) :=
  [{ name := "query"
     isSet := Option.isSome
     read := fun _ cs => do
       let (s, rest) ← string cs
       .ok (some s, rest) }]

def read (depth : Nat) (cs : List Char) : Except Failure (SuggestionRequest × List Char) := do
  let ((query, size), rest) ← record "struct AssociateRequest" (fun _ => fields) none depth cs
  match query, size with
  | some query, _ => .ok ({ query }, rest)
  | none, some size => fail (.tooShort size "struct AssociateRequest with 1 element") rest
  | none, none => fail (.missingField "query") rest

def parse (text : String) : Except Failure SuggestionRequest :=
  ended (read depthLimit text.toList)

end SuggestionRequest

namespace SearchRequest

def ofState (s : SearchState) : SearchRequest :=
  { query := s.query, classes := s.categories.labels }

def write (r : SearchRequest) : List Char :=
  writeObject [("Query", writeString r.query), ("Classes", writeList (r.classes.map writeString))]

/-- The fields read so far. -/
structure Draft where
  query : Option String
  classes : Option (List String)

def fields (depth : Nat) : List (Member Draft) :=
  [{ name := "Query"
     isSet := fun d => d.query.isSome
     read := fun d cs => do
       let (s, rest) ← string cs
       .ok ({ d with query := some s }, rest) },
    { name := "Classes"
      isSet := fun d => d.classes.isSome
      read := fun d cs => do
        let (labels, rest) ← list depth (fun _ => string) cs
        .ok ({ d with classes := some labels }, rest) }]

def read (depth : Nat) (cs : List Char) : Except Failure (SearchRequest × List Char) := do
  let ((draft, size), rest) ← record "struct SearchRequest" fields ⟨none, none⟩ depth cs
  match draft.query, draft.classes, size with
  | some query, some classes, _ => .ok ({ query, classes }, rest)
  | _, _, some size => fail (.tooShort size "struct SearchRequest with 2 elements") rest
  | none, _, none => fail (.missingField "Query") rest
  | some _, none, none => fail (.missingField "Classes") rest

def parse (text : String) : Except Failure SearchRequest :=
  ended (read depthLimit text.toList)

end SearchRequest

end Storefront
