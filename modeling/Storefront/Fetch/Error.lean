/-!
# Failed requests
-/

namespace Storefront

/-- Why a request to the backend gave no list. -/
inductive FetchError where
  | network (text : String)
  | server (status : Nat) (body : String)
  | decode (text : String)
  deriving DecidableEq, Repr, Inhabited

namespace FetchError

def message : FetchError → String
  | network text => text
  | server status body => "HTTP error! status: " ++ Nat.repr status ++ ", body: " ++ body
  | decode text => "invalid response body: " ++ text

def isServer : FetchError → Bool
  | server _ _ => true
  | _ => false

end FetchError

end Storefront
