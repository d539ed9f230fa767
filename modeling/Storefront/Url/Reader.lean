import Storefront.Url.Host
import Storefront.Url.Path

/-!
# Reading URLs

A text is read as an absolute URL, or as a reference relative to the root of an origin. White space and
controls around it do not count, and neither do tabs and line breaks within it, except where the path of a file
makes something of them.
-/

namespace Storefront.Url

open Storefront.Text

/-- What a relative reference is resolved against: a scheme with hosts, and the root of one host. -/
structure Origin where
  scheme : String
  authority : Authority
  deriving DecidableEq, Repr

def isC0OrSpace (c : Char) : Bool :=
  c.toNat ≤ 0x20

/-- A text without the white space and controls around it. -/
def trimmed (text : List Char) : List Char :=
  ((text.dropWhile isC0OrSpace).reverse.dropWhile isC0OrSpace).reverse

def isSchemeChar (c : Char) : Bool :=
  c.isAlphanum || c == '+' || c == '-' || c == '.'

/-- The scheme in lower case and what follows its colon. -/
def scheme? (text : List Char) : Option (String × List Char) :=
  match text with
  | [] => none
  | c :: _ =>
    if c.isAlpha then
      match text.dropWhile isSchemeChar with
      | ':' :: rest => some (String.ofList ((text.takeWhile isSchemeChar).map Char.toLower), rest)
      | _ => none
    else none

/-- The text before the first character that satisfies `p`, and the rest. -/
def cut (p : Char → Bool) (text : List Char) : List Char × List Char :=
  (text.takeWhile (!p ·), text.dropWhile (!p ·))

def isPathEnd (c : Char) : Bool :=
  c == '?' || c == '#'

/-- Query and fragment at the end of a URL. -/
def readTail (kind : Kind) (text : List Char) : Option String × Option String :=
  let fragment (cs : List Char) := String.ofList (Percent.encode keptInFragment cs)
  match text with
  | '?' :: rest =>
    let (query, rest) := cut (· == '#') rest
    let kept := if kind == .plain then keptInQuery else keptInSpecialQuery
    let query := String.ofList (Percent.encode kept query)
    match rest with
    | '#' :: rest => (some query, some (fragment rest))
    | _ => (some query, none)
  | '#' :: rest => (none, some (fragment rest))
  | _ => (none, none)

/-- A URL from its front and the text behind the path. -/
def finish (kind : Kind) (scheme : String) (authority : Option Authority) (path : List Char)
    (tail : List Char) : Url :=
  let (query, fragment) := readTail kind tail
  { scheme, authority, path := String.ofList path, query, fragment }

/-- A URL from its front and the text behind the slash that begins the path. -/
def finishPath (kind : Kind) (scheme : String) (authority : Option Authority) (text : List Char) : Url :=
  let (path, tail) := cut isPathEnd text
  finish kind scheme authority (readPath kind path) tail

/-- User information as it is written before the at sign. -/
def readUserinfo (text : List Char) : String :=
  let (name, rest) := cut (· == ':') text
  let password := Percent.encode keptInUserinfo (rest.drop 1)
  let name := Percent.encode keptInUserinfo name
  String.ofList (if password.isEmpty then name else name ++ ':' :: password)

def isAuthorityEnd (kind : Kind) (c : Char) : Bool :=
  kind.isSlash c || isPathEnd c

/-- User information and the text behind the last at sign of the authority. -/
def splitUserinfo (kind : Kind) (text : List Char) : Except ParseError (String × List Char) :=
  let (authority, rest) := cut (isAuthorityEnd kind) text
  match authority.reverse.span (· != '@') with
  | (_, []) => .ok ("", text)
  | (host, _ :: userinfo) =>
    if userinfo.isEmpty && host.isEmpty && !rest.isEmpty then .error .emptyHost
    else .ok (readUserinfo userinfo.reverse, host.reverse ++ rest)

/-- The host text: a colon ends it unless brackets are open. -/
def hostLength (kind : Kind) (bracketed : Bool) : List Char → Nat
  | [] => 0
  | c :: rest =>
    if (c == ':' && !bracketed) || isAuthorityEnd kind c then 0
    else
      let bracketed := if c == '[' then true else if c == ']' then false else bracketed
      hostLength kind bracketed rest + 1

/-- The port at the front of a text, unless it is the scheme's own, and the rest. -/
def readPort (scheme : String) (text : List Char) : Except ParseError (Option Nat × List Char) :=
  let digits := text.takeWhile Char.isDigit
  let rest := text.dropWhile Char.isDigit
  let number := (natOfDigits? 10 digits).getD 0
  if number > 65535 then .error .port
  else match rest with
    | [] => .ok (port digits number, rest)
    | c :: _ =>
      if c == '/' || c == '\\' || isPathEnd c then .ok (port digits number, rest) else .error .port
where
  port (digits : List Char) (number : Nat) : Option Nat :=
    if digits.isEmpty || defaultPort scheme == some number then none else some number

/-- The path behind an authority. Only a plain scheme may have none. -/
def finishAuthority (kind : Kind) (scheme : String) (authority : Authority) (text : List Char) : Url :=
  match kind, text with
  | .plain, [] => finish kind scheme (some authority) [] []
  | _, c :: rest =>
    if kind.isSlash c then finishPath kind scheme (some authority) rest
    else if kind == .plain && isPathEnd c then finish kind scheme (some authority) [] text
    else finishPath kind scheme (some authority) text
  | _, [] => finishPath kind scheme (some authority) []

/-- A URL from the text behind the two slashes, for every scheme but that of files. -/
def readAuthority (kind : Kind) (scheme : String) (text : List Char) : Except ParseError Url := do
  let (userinfo, rest) ← splitUserinfo kind text
  let length := hostLength kind false rest
  let hostText := rest.take length
  let rest := rest.drop length
  let host ←
    if kind == .special then
      if hostText.isEmpty then .error .emptyHost else domainHost hostText
    else opaqueHost hostText
  let portText := match rest with
    | ':' :: after => some after
    | _ => none
  if host.isEmpty && (portText.isSome || !userinfo.isEmpty) then .error .emptyHost
  let (port, rest) ← match portText with
    | some after => readPort scheme after
    | none => .ok (none, rest)
  .ok (finishAuthority kind scheme { userinfo, host, port } rest)

/-- What follows the slash that a text begins with, if it does. -/
def afterSlash? (text : List Char) : Option (List Char) :=
  match text.dropWhile isTabOrBreak with
  | [] => none
  | c :: rest => if Kind.file.isSlash c then some rest else none

/-- A file URL from its host and the text of the path and what follows. There is no host before a drive letter. -/
def finishFile (host : String) (text : List Char) : Url :=
  let (path, tail) := cut isPathEnd text
  let (path, onDrive) := readFilePath path
  let host := if onDrive then "" else host
  finish .file "file" (some { userinfo := "", host, port := none }) path (joined tail)

/-- A file URL from the text behind the colon, tabs and line breaks included. A drive letter is no host. Without a
host the slash of the path is the end of a first segment that is empty. -/
def readFile (text : List Char) : Except ParseError Url := do
  match afterSlash? text with
  | none => .ok (finishFile "" text)
  | some path =>
    match afterSlash? path with
    | none => .ok (finishFile "" path)
    | some text =>
      let (hostText, path) := cut (isAuthorityEnd .file) text
      let hostText := joined hostText
      if isDrive hostText then .ok (finishFile "" text)
      else
        let host ← if hostText.isEmpty then .ok "" else domainHost hostText
        if host.isEmpty || host == "localhost" then .ok (finishFile "" path)
        else .ok (finishFile host ((afterSlash? path).getD path))

/-- A URL of a scheme without special rules, from the text behind the colon. -/
def readPlain (scheme : String) (text : List Char) : Except ParseError Url :=
  match text with
  | '/' :: '/' :: rest => readAuthority .plain scheme rest
  | '/' :: rest => .ok (finishPath .plain scheme none rest)
  | text =>
    let (path, tail) := cut isPathEnd text
    .ok (finish .plain scheme none (Percent.encode keptOpaque path) tail)

/-- A reference without a scheme, or one that repeats the scheme of the origin. -/
def readRelative (origin : Origin) (text : List Char) : Except ParseError Url :=
  let kind := kindOf origin.scheme
  match text with
  | c :: rest =>
    if kind.isSlash c then
      match rest with
      | d :: rest' =>
        if kind.isSlash d then
          if c == '/' && d == '/' then readAuthority kind origin.scheme rest'
          else readAuthority kind origin.scheme (rest'.dropWhile kind.isSlash)
        else .ok (finishPath kind origin.scheme (some origin.authority) rest)
      | [] => .ok (finishPath kind origin.scheme (some origin.authority) [])
    else .ok (finishPath kind origin.scheme (some origin.authority) text)
  | [] => .ok (finishPath kind origin.scheme (some origin.authority) [])

/-- Reads a URL; without an origin it has to be absolute. -/
def read (origin : Option Origin) (text : String) : Except ParseError Url :=
  let whole := trimmed text.toList
  let text := joined whole
  match scheme? text with
  | some (scheme, rest) =>
    match kindOf scheme with
    | .file => readFile ((whole.dropWhile (· != ':')).drop 1)
    | .plain => readPlain scheme rest
    | .special =>
      let slashes := (rest.takeWhile (kindOf scheme).isSlash).length
      match origin with
      | some origin =>
        if slashes < 2 && origin.scheme == scheme then readRelative origin rest
        else readAuthority .special scheme (rest.drop slashes)
      | none => readAuthority .special scheme (rest.drop slashes)
  | none =>
    match origin with
    | some origin => readRelative origin text
    | none => .error .relativeWithoutBase

end Storefront.Url
