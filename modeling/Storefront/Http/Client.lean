import Storefront.Http.Headers
import Storefront.Http.Target
import Storefront.Http.Timeout
import Storefront.Number.Text
import Storefront.Settings.Basic

/-!
# HTTP clients

A client is made from settings, which may be unfit for it, and makes requests that carry JSON.
-/

namespace Storefront

open Storefront.Http

/-- Why settings are unfit for a client. -/
inductive ClientError where
  | headerName
  | headerValue
  | timeout (seconds : Binary64)
  | proxy (f : ProxyFailure)
  deriving DecidableEq, Repr

def ClientError.message : ClientError → String
  | headerName => "invalid HTTP header name"
  | headerValue => "failed to parse header value"
  | timeout seconds => "request_timeout must be positive seconds, got " ++ seconds.display
  | proxy f => f.message

structure HttpRequest where
  target : Target
  headers : Headers
  body : List Char
  deriving DecidableEq, Repr

structure HttpReply where
  status : Nat
  contentType : Option String
  body : List UInt8
  deriving DecidableEq, Repr

structure HttpClient where
  /-- Headers that every request has unless it sets them itself. -/
  headers : Headers
  timeout : Timeout

namespace HttpClient

/-- What every client says about itself unless it is told otherwise. -/
def standardHeaders : Headers :=
  Headers.set {} "user-agent" "nexus-search/0.1.0"

/-- The headers from settings; of several values for a name the last one counts. -/
def extraHeaders (h : Headers) : List (String × String) → Except ClientError Headers
  | [] => .ok h
  | (name, value) :: rest =>
    match headerName? name with
    | none => .error .headerName
    | some name =>
      if isHeaderValue value.toList then extraHeaders (h.set name value) rest else .error .headerValue

/-- A proxy for all requests takes the place of those for some. -/
def checkProxies (p : ProxySettings) : Except ClientError Unit :=
  let texts := match p.all with
    | some text => [text]
    | none => p.http.toList ++ p.https.toList
  texts.forM fun text =>
    match proxy text with
    | .ok _ => .ok ()
    | .error f => .error (.proxy f)

def ofSettings (s : OutgoingSettings) : Except ClientError HttpClient := do
  let headers ← extraHeaders standardHeaders s.extraHeaders
  match Timeout.ofSeconds? s.requestTimeout with
  | none => .error (.timeout s.requestTimeout)
  | some timeout => do
    checkProxies s.proxies
    .ok { headers, timeout }

/-- A request that carries JSON. Compressed replies are welcome unless a part of one is asked for. -/
def post (c : HttpClient) (url : String) (body : List Char) : Except UrlFailure HttpRequest := do
  let target ← Target.ofText url
  let own := (Headers.set {} "accept" "application/json").set "content-type" "application/json"
  let own := match target.authorization with
    | some value => own.set "authorization" value
    | none => own
  let headers := own.withDefaults c.headers
  let headers :=
    if (headers.get? "range").isSome then headers else headers.setDefault "accept-encoding" "gzip, br"
  .ok { target, headers, body }

end HttpClient

namespace HttpReply

/-- Replies with these statuses have no body. -/
def isBodiless (status : Nat) : Bool :=
  status == 101 || status == 204 || status == 304

/-- The text of a reply, in the encoding that it names. -/
def text (r : HttpReply) : String :=
  if isBodiless r.status then "" else String.ofList ((encodingOf r.contentType).decode r.body)

end HttpReply

end Storefront
