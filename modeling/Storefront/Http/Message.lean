import Storefront.Fetch.Error
import Storefront.Http.Client
import Storefront.Text.Blank
import Storefront.Text.Hex

/-!
# Messages

A request as bytes, and the reply in the bytes that come back. A reply ends where its length says, with the last
of its chunks, or with the connection.
-/

namespace Storefront

open Storefront.Http Storefront.Text

namespace HttpRequest

/-- Host and port, as far as they do not follow from the scheme. -/
def address (t : Target) : String :=
  if t.port == (if t.secure then 443 else 80) then t.host else t.host ++ ":" ++ Nat.repr t.port

def url (r : HttpRequest) : String :=
  (if r.target.secure then "https://" else "http://") ++ address r.target ++ r.target.resource

def bytes (r : HttpRequest) : List UInt8 :=
  let body := utf8 r.body
  let headers := (r.headers.setDefault "host" (address r.target)).setDefault "content-length"
    (Nat.repr body.length)
  let head := "POST " ++ r.target.resource ++ " HTTP/1.1\r\n" ++
    String.join (headers.sent.map fun (name, value) => name ++ ": " ++ value ++ "\r\n") ++ "\r\n"
  utf8 head.toList ++ body

end HttpRequest

/-- Why a request has no reply. -/
inductive ExchangeFailure where
  | connection (text : String)
  | timeout
  | version
  | status
  | header
  | contentLength
  | transferEncoding
  | chunkSize
  | incomplete
  | encoded
  deriving DecidableEq, Repr

def ExchangeFailure.message : ExchangeFailure → String
  | connection text => "error trying to connect: " ++ text
  | timeout => "operation timed out"
  | version => "invalid HTTP version parsed"
  | status => "invalid HTTP status-code parsed"
  | header => "invalid HTTP header parsed"
  | contentLength => "invalid content-length parsed"
  | transferEncoding => "unexpected transfer-encoding parsed"
  | chunkSize => "Invalid chunk size line: Invalid Size"
  | incomplete => "connection closed before message completed"
  | encoded => "unsupported content encoding"

/-- The error of a request that has no reply. -/
def HttpRequest.failure (r : HttpRequest) (f : ExchangeFailure) : FetchError :=
  .network ("error sending request for url (" ++ r.url ++ "): " ++ f.message)

namespace HttpReply

/-- The bytes of a line, and those behind its end. -/
def line? (bs : List UInt8) : Option (List UInt8 × List UInt8) :=
  match bs.span (· ≠ 0x0A) with
  | (_, []) => none
  | (line, _ :: rest) =>
    match line.reverse with
    | 0x0D :: line => some (line.reverse, rest)
    | _ => some (line, rest)

/-- The lines before an empty one, and what is behind that. `fuel` is more than the number of bytes. -/
def lines? : Nat → List UInt8 → Option (List (List Char) × List UInt8)
  | 0, _ => none
  | fuel + 1, bs => do
    let (line, rest) ← line? bs
    if line.isEmpty then some ([], rest)
    else
      let (lines, rest) ← lines? fuel rest
      some (decodeLossy line :: lines, rest)

/-- The first line of a reply. -/
structure StatusLine where
  /-- The older of two versions, which knows no chunks. -/
  old : Bool
  status : Nat
  deriving DecidableEq, Repr

/-- Reads a version, a number of three digits, and whatever else there is. -/
def statusLine (line : List Char) : Except ExchangeFailure StatusLine :=
  let version := line.take 8
  let old := version == "HTTP/1.0".toList
  if !(old || version == "HTTP/1.1".toList) || (line.drop 8).head? ≠ some ' ' then .error .version
  else
    let digits := (line.drop 9).take 3
    let reason := line.drop 12
    match natOfDigits? 10 digits with
    | none => .error .status
    | some status =>
      if digits.length == 3 && 100 ≤ status && reason.head?.all (· == ' ') && isHeaderValue reason then
        .ok { old, status }
      else .error .status

/-- Reads a name and a value with a colon between them. -/
def header (line : List Char) : Except ExchangeFailure (String × String) :=
  let name := line.takeWhile isTokenChar
  match line.dropWhile isTokenChar with
  | ':' :: value =>
    if name.isEmpty || !isHeaderValue value then .error .header
    else .ok (String.ofList (name.map Char.toLower), String.ofList (unpadded value))
  | _ => .error .header

/-- Where a body ends. -/
inductive Extent where
  | bytes (n : Nat)
  | lastChunk
  | connection
  deriving DecidableEq, Repr

def extent (first : StatusLine) (headers : List (String × String)) : Except ExchangeFailure Extent :=
  if isBodiless first.status then .ok (.bytes 0)
  else
    match headers.lookup "transfer-encoding" with
    | some coding =>
      if first.old then .error .transferEncoding
      else if coding.toList.map Char.toLower == "chunked".toList then .ok .lastChunk
      else .ok .connection
    | none =>
      match (headers.filter (·.1 == "content-length")).map fun h => natOfDigits? 10 h.2.toList with
      | [] => .ok .connection
      | some n :: more => if more.all (· == some n) then .ok (.bytes n) else .error .contentLength
      | none :: _ => .error .contentLength

/-- The bytes of the chunks, if the last one is there. `fuel` is more than the number of bytes. -/
def chunks? : Nat → List UInt8 → Except ExchangeFailure (Option (List UInt8))
  | 0, _ => .ok none
  | fuel + 1, bs =>
    match line? bs with
    | none => .ok none
    | some (line, rest) =>
      match natOfDigits? 16 ((decodeLossy line).takeWhile fun c => c ≠ ';' && c ≠ ' ' && c ≠ '\t') with
      | none => .error .chunkSize
      | some 0 => .ok (some [])
      | some size =>
        if rest.length < size + 2 then .ok none
        else do
          let more ← chunks? fuel (rest.drop (size + 2))
          .ok (more.map (rest.take size ++ ·))

/-- The body of a reply, if all of it is there. `ended` if nothing follows any more. -/
def body? (ended : Bool) (bs : List UInt8) : Extent → Except ExchangeFailure (Option (List UInt8))
  | .bytes n => .ok (if n ≤ bs.length then some (bs.take n) else none)
  | .lastChunk => chunks? (bs.length + 1) bs
  | .connection => .ok (if ended then some bs else none)

/-- Reads a reply, if all of it is there. Replies that only tell to go on are passed over. -/
def ofBytes? (ended : Bool) : Nat → List UInt8 → Except ExchangeFailure (Option HttpReply)
  | 0, _ => .ok none
  | fuel + 1, bs =>
    match lines? (bs.length + 1) bs with
    | none => .ok none
    | some ([], bs) => ofBytes? ended fuel bs
    | some (first :: rest, bs) => do
      let first ← statusLine first
      let headers ← rest.mapM header
      if 100 ≤ first.status && first.status < 200 && !isBodiless first.status then ofBytes? ended fuel bs
      else
        let extent ← extent first headers
        if (headers.lookup "content-encoding").any (· ≠ "identity") then .error .encoded
        else
          let body ← body? ended bs extent
          .ok (body.map fun body =>
            { status := first.status, contentType := headers.lookup "content-type", body })

/-- The reply that bytes hold, or nothing as long as more of them have to come. -/
def read (bs : List UInt8) (ended : Bool) : Except ExchangeFailure (Option HttpReply) :=
  match ofBytes? ended (bs.length + 1) bs with
  | .ok none => if ended then .error .incomplete else .ok none
  | r => r

end HttpReply

end Storefront
