import Storefront.Text.Percent

/-!
# Which characters a URL part escapes

Each part of a URL has a set of ASCII characters that stand for themselves; all others, and every
character outside ASCII, are percent-encoded.
-/

namespace Storefront.Url

open Storefront.Text

def isControl (c : Char) : Bool :=
  c.toNat < 0x20 || c.toNat == 0x7F

/-- Kept in opaque paths and hosts: all but controls. -/
def keptOpaque (c : Char) : Bool :=
  !isControl c

def keptInFragment (c : Char) : Bool :=
  keptOpaque c && !(c == ' ' || c == '"' || c == '<' || c == '>' || c == '\x60')

def keptInPath (c : Char) : Bool :=
  keptInFragment c && !(c == '#' || c == '?' || c == '\x7b' || c == '\x7d')

def keptInUserinfo (c : Char) : Bool :=
  keptInPath c &&
    !(c == '/' || c == ':' || c == ';' || c == '=' || c == '@' || c == '[' || c == '\\' ||
      c == ']' || c == '^' || c == '|')

def keptInQuery (c : Char) : Bool :=
  keptOpaque c && !(c == ' ' || c == '"' || c == '#' || c == '<' || c == '>')

/-- An apostrophe is escaped in the queries of special schemes only. -/
def keptInSpecialQuery (c : Char) : Bool :=
  keptInQuery c && c != '\''

end Storefront.Url
