import Storefront.Fetch.Reply
import Storefront.Fetch.Request
import Storefront.Http.Client

/-!
# The backend

Suggestions and products are asked for over HTTP. Each question has an address of its own.
-/

namespace Storefront

structure Backend where
  client : HttpClient
  suggestionUrl : String
  searchUrl : String

namespace Backend

def ofSettings (outgoing : OutgoingSettings) (backend : BackendSettings) : Except ClientError Backend := do
  let client ← HttpClient.ofSettings outgoing
  .ok { client, suggestionUrl := backend.associateUrl, searchUrl := backend.searchUrl }

/-- A request that cannot be made is one that failed on its way. -/
def request (b : Backend) (url : String) (body : List Char) : Except FetchError HttpRequest :=
  match b.client.post url body with
  | .ok r => .ok r
  | .error f => .error (.network f.message)

def suggestionRequest (b : Backend) (r : SuggestionRequest) : Except FetchError HttpRequest :=
  b.request b.suggestionUrl r.write

def searchRequest (b : Backend) (r : SearchRequest) : Except FetchError HttpRequest :=
  b.request b.searchUrl r.write

end Backend

/-- The reply as text. -/
def HttpReply.toReply (r : HttpReply) : Reply :=
  { status := r.status, text := r.text }

end Storefront
