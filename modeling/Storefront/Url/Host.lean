import Storefront.Url.Basic
import Storefront.Url.Domain

/-!
# Hosts

The host of a URL in its normal written form.
-/

namespace Storefront.Url

open Storefront.Text

def ipv6Host (host : List Char) : Except ParseError String :=
  match host.reverse with
  | ']' :: inner =>
    match Ipv6.parse? inner.reverse with
    | some pieces => .ok (Ipv6.toString pieces)
    | none => .error .ipv6
  | _ => .error .ipv6

/-- The host of a scheme that knows hosts: an address in brackets, a number, or a domain name. -/
def domainHost (host : List Char) : Except ParseError String :=
  match host with
  | '[' :: inner => ipv6Host inner
  | host =>
    match Domain.toAscii? (Percent.decode (utf8 host)) with
    | none => .error .internationalDomainName
    | some [] => .error .emptyHost
    | some name =>
      if Ipv4.endsInNumber name then
        match Ipv4.parse? name with
        | some n => .ok (Ipv4.toString n)
        | none => .error .ipv4
      else .ok (String.ofList name)

def isForbiddenInOpaque (c : Char) : Bool :=
  c == '\x00' || c == '\t' || c == '\n' || c == '\r' || c == ' ' || c == '#' || c == '/' || c == ':' ||
    c == '<' || c == '>' || c == '?' || c == '@' || c == '[' || c == '\\' || c == ']' || c == '^' ||
    c == '|'

/-- The host of any other scheme, which may be empty. -/
def opaqueHost (host : List Char) : Except ParseError String :=
  match host with
  | '[' :: inner => ipv6Host inner
  | host =>
    if host.any isForbiddenInOpaque then .error .domainCharacter
    else .ok (String.ofList (Percent.encode keptOpaque host))

end Storefront.Url
