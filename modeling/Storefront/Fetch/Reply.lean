import Storefront.Fetch.Error
import Storefront.Product.Record
import Storefront.Text.Blank

/-!
# Replies of the backend

A status and a text. A successful reply holds a list; no text at all, white space and `null` stand for the
empty one.
-/

namespace Storefront

open Storefront.Json Storefront.Text

structure Reply where
  status : Nat
  text : String
  deriving DecidableEq, Repr, Inhabited

namespace Reply

def isSuccess (r : Reply) : Bool :=
  200 ≤ r.status && r.status < 300

/-- What the text holds, whatever the status. -/
def decode {α : Type} (read : Nat → Reader α) (r : Reply) : Except FetchError α :=
  match ended (read depthLimit r.text.toList) with
  | .ok x => .ok x
  | .error failure => .error (.decode (failure.message r.text.toList))

/-- The reply itself if it tells of success. -/
def checkStatus (r : Reply) : Except FetchError Reply :=
  if r.isSuccess then .ok r else .error (.server r.status r.text)

/-- A list or `null`. -/
def listOrNull {α : Type} (item : Nat → Reader α) (depth : Nat) : Reader (Option (List α)) :=
  optional (list depth item)

/-- The list that a reply holds. -/
def items {α : Type} (item : Nat → Reader α) (r : Reply) : Except FetchError (List α) := do
  let r ← r.checkStatus
  if blank r.text then .ok []
  else
    let found ← r.decode (listOrNull item)
    .ok (found.getD [])

def suggestions (r : Reply) : Except FetchError (List String) :=
  r.items fun _ => string

def products (r : Reply) : Except FetchError (List Product) :=
  r.items Product.read

end Reply

end Storefront
