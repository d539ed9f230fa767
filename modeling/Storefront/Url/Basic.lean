/-!
# Absolute URLs

The parts of a URL, each kept as it is written, and the reasons why a text is no URL.
-/

namespace Storefront

/-- Why a text is no URL. -/
inductive Url.ParseError where
  | emptyHost
  | internationalDomainName
  | port
  | ipv4
  | ipv6
  | domainCharacter
  | relativeWithoutBase
  deriving DecidableEq, Repr

namespace Url.ParseError

def message : ParseError → String
  | emptyHost => "empty host"
  | internationalDomainName => "invalid international domain name"
  | port => "invalid port number"
  | ipv4 => "invalid IPv4 address"
  | ipv6 => "invalid IPv6 address"
  | domainCharacter => "invalid domain character"
  | relativeWithoutBase => "relative URL without a base"

end Url.ParseError

/-- How a scheme is read: three kinds of rules. -/
inductive Url.Kind where
  | file
  | special
  | plain
  deriving DecidableEq, Repr

namespace Url

/-- The schemes with a host that must not be empty, and their ports. -/
def defaultPort (scheme : String) : Option Nat :=
  match scheme with
  | "http" | "ws" => some 80
  | "https" | "wss" => some 443
  | "ftp" => some 21
  | _ => none

def kindOf (scheme : String) : Kind :=
  if scheme == "file" then .file
  else if (defaultPort scheme).isSome then .special
  else .plain

/-- A backslash separates like a slash unless the scheme is plain. -/
def Kind.isSlash (k : Kind) (c : Char) : Bool :=
  c == '/' || (c == '\\' && k != .plain)

/-- What stands between the two slashes and the path. -/
structure Authority where
  userinfo : String
  host : String
  port : Option Nat
  deriving DecidableEq, Repr

end Url

structure Url where
  scheme : String
  authority : Option Url.Authority
  path : String
  query : Option String
  fragment : Option String
  deriving DecidableEq, Repr

namespace Url

def Authority.toString (a : Authority) : String :=
  (if a.userinfo.isEmpty then "" else a.userinfo ++ "@") ++ a.host ++
    (match a.port with
     | none => ""
     | some p => ":" ++ (Nat.repr p))

/-- The written form. A path that begins with two slashes and follows no authority is kept apart from the
scheme by a dot segment. -/
def toString (u : Url) : String :=
  u.scheme ++ ":" ++
    (match u.authority with
     | some a => "//" ++ a.toString
     | none => if u.path.startsWith "//" then "/." else "") ++
    u.path ++
    (match u.query with
     | none => ""
     | some q => "?" ++ q) ++
    (match u.fragment with
     | none => ""
     | some f => "#" ++ f)

def host (u : Url) : Option String :=
  u.authority.bind fun a => if a.host.isEmpty then none else some a.host

end Url

end Storefront
