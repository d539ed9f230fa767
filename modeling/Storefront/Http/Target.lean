import Storefront.Text.Base64
import Storefront.Text.Percent
import Storefront.Url.Reader

/-!
# Where requests go

The URLs that a request can be made to, and why another text is refused.
-/

namespace Storefront.Http

open Storefront.Text

/-- Why no request can be made to a URL. -/
inductive UrlFailure where
  | malformed (e : Url.ParseError)
  | scheme (u : Url)
  | character (u : Url)
  deriving DecidableEq, Repr

def UrlFailure.message : UrlFailure → String
  | malformed e => "builder error: " ++ e.message
  | scheme u => "builder error for url (" ++ u.toString ++ "): URL scheme is not allowed"
  | character u => "builder error for url (" ++ u.toString ++ "): Parsed Url is not a valid Uri"

/-- A URL with a host. -/
def urlWithHost (text : String) : Except UrlFailure Url :=
  match Url.read none text with
  | .error e => .error (.malformed e)
  | .ok u => if u.host.isSome then .ok u else .error (.scheme u)

/-- A host without characters that may not stand in the address of a request. -/
def isSendable (host : String) : Bool :=
  host.toList.all fun c => c ≠ '"' && c ≠ '\x60' && c ≠ '\x7b' && c ≠ '\x7d'

/-- The longest URL that a request can be made to. -/
def maxUrlLength : Nat := 65534

/-- A place to send requests to. -/
structure Target where
  secure : Bool
  host : String
  port : Nat
  /-- Path and query. -/
  resource : String
  /-- What a server is told about who asks, if the URL says it. -/
  authorization : Option String
  deriving DecidableEq, Repr

/-- Name and password, if they are text. Without either nobody is named. -/
def credentials? (userinfo : String) : Option (List Char × Option (List Char)) :=
  let (name, rest) := userinfo.toList.span (· ≠ ':')
  let decoded (cs : List Char) := decodeStrict? (Percent.decode (utf8 cs))
  match decoded name, decoded (rest.drop 1) with
  | none, _ => none
  | some name, password =>
    let password := if rest.isEmpty then none else password
    if name.isEmpty && password.isNone then none else some (name, password)

/-- The header that names who asks. -/
def basicAuthorization (name : List Char) (password : Option (List Char)) : String :=
  "Basic " ++ String.ofList (Base64.encode (utf8 (name ++ ':' :: password.getD [])))

/-- The URL without what it says about who asks. -/
def anonymous (u : Url) : Url :=
  { u with authority := u.authority.map fun a => { a with userinfo := "" } }

/-- Where a URL leads. -/
def Target.ofUrl (u : Url) (a : Url.Authority) : Except UrlFailure Target :=
  let credentials := credentials? a.userinfo
  let u := if credentials.isSome then anonymous u else u
  if u.scheme ≠ "http" && u.scheme ≠ "https" then .error (.scheme u)
  else if !isSendable a.host || u.toString.utf8ByteSize > maxUrlLength then .error (.character u)
  else
    .ok
      { secure := u.scheme == "https"
        host := a.host
        port := a.port.getD ((Url.defaultPort u.scheme).getD 0)
        resource := u.path ++ (match u.query with
          | some q => "?" ++ q
          | none => "")
        authorization := credentials.map fun (name, password) => basicAuthorization name password }

def Target.ofText (text : String) : Except UrlFailure Target := do
  let u ← urlWithHost text
  match u.authority with
  | some a => Target.ofUrl u a
  | none => .error (.scheme u)

/-! ## Proxies -/

/-- Why a text does not name a proxy. -/
inductive ProxyFailure where
  | url (f : UrlFailure)
  | scheme
  | character
  deriving DecidableEq, Repr

def ProxyFailure.message : ProxyFailure → String
  | url f => "builder error: " ++ f.message
  | scheme => "builder error: unknown proxy scheme"
  | character => "builder error: invalid uri character"

/-- What is wrong with a URL may be that its scheme is missing. -/
def lacksScheme : UrlFailure → Bool
  | .malformed .relativeWithoutBase => true
  | .scheme _ => true
  | _ => false

/-- The URL of a proxy; without a scheme it is one for HTTP. -/
def proxyUrl (text : String) : Except UrlFailure Url :=
  match urlWithHost text with
  | .ok u => .ok u
  | .error f =>
    if lacksScheme f then
      match urlWithHost ("http://" ++ text) with
      | .ok u => .ok u
      | .error _ => .error f
    else .error f

def proxy (text : String) : Except ProxyFailure Url :=
  match proxyUrl text with
  | .error f => .error (.url f)
  | .ok u =>
    if u.scheme ≠ "http" && u.scheme ≠ "https" then .error .scheme
    else if !isSendable (u.host.getD "") then .error .character
    else .ok u

end Storefront.Http
