import Storefront.Number.Power
import Storefront.Text.Hex

/-!
# Numeric hosts

IPv4 addresses in their loose written forms (decimal, octal and hexadecimal parts, fewer than four parts)
and IPv6 addresses.
-/

namespace Storefront.Url

open Storefront.Text

/-- The pieces between separators; there is always at least one. -/
def splitAt (p : Char → Bool) : List Char → List (List Char)
  | [] => [[]]
  | c :: rest =>
    if p c then [] :: splitAt p rest
    else match splitAt p rest with
      | [] => [[c]]
      | piece :: others => (c :: piece) :: others

namespace Ipv4

/-- One part of an address. -/
inductive Part where
  | notNumber
  | tooLarge
  | number (n : Nat)

def part (cs : List Char) : Part :=
  match cs with
  | [] => .notNumber
  | '0' :: x :: rest =>
    let digits := if x == 'x' || x == 'X' then (16, rest) else (8, x :: rest)
    if digits.2.isEmpty then .number 0 else ofDigits digits.1 digits.2
  | cs => ofDigits 10 cs
where
  ofDigits (base : Nat) (cs : List Char) : Part :=
    match natOfDigits? base cs with
    | none => .notNumber
    | some n => if n < twoTo 32 then .number n else .tooLarge

/-- Whether the last part that is not empty looks like a number, so that the host has to be an address. -/
def endsInNumber (host : List Char) : Bool :=
  let parts := (splitAt (· == '.') host).reverse
  let last := match parts with
    | [] :: rest => rest.head?
    | part :: _ => some part
    | [] => none
  match last with
  | none => false
  | some cs =>
    (!cs.isEmpty && cs.all Char.isDigit) ||
      match part cs with
      | .notNumber => false
      | _ => true

/-- The address as a number below `2 ^ 32`. -/
def parse? (host : List Char) : Option Nat := do
  let parts := splitAt (· == '.') host
  let parts := if parts.getLast? == some [] then parts.dropLast else parts
  if parts.length > 4 then none
  let numbers ← parts.mapM fun cs => match part cs with
    | .number n => some n
    | _ => none
  let last ← numbers.getLast?
  let leading := numbers.dropLast
  if last ≥ twoTo (32 - 8 * leading.length) then none
  if leading.any (· > 255) then none
  some (leading.zipIdx.foldl (fun sum (n, i) => sum + n * twoTo (8 * (3 - i))) last)

def toString (n : Nat) : String :=
  ".".intercalate ([n / twoTo 24 % 256, n / twoTo 16 % 256, n / twoTo 8 % 256, n % 256].map Nat.repr)

end Ipv4

namespace Ipv6

/-- Up to four hexadecimal digits, and the rest. -/
def piece (cs : List Char) : Nat × List Char :=
  let digits := (cs.take 4).takeWhile fun c => (hexValue c).isSome
  (digits.foldl (fun n c => n * 16 + (hexValue c).getD 0) 0, cs.drop digits.length)

/-- A number up to 255 without a leading zero, and the rest. -/
def decimal (cs : List Char) : Option (Nat × List Char) :=
  let digits := cs.takeWhile Char.isDigit
  match natOfDigits? 10 digits with
  | none => none
  | some n =>
    if n > 255 || (digits.length > 1 && digits.head? == some '0') then none
    else some (n, cs.drop digits.length)

/-- The two last pieces, written as an IPv4 address that ends the host. -/
def embedded (cs : List Char) : Option (List Nat) := do
  let (a, cs) ← decimal cs
  let (b, cs) ← decimal (← afterDot cs)
  let (c, cs) ← decimal (← afterDot cs)
  let (d, cs) ← decimal (← afterDot cs)
  if cs.isEmpty then some [a * 256 + b, c * 256 + d] else none
where
  afterDot : List Char → Option (List Char)
    | '.' :: rest => some rest
    | _ => none

/-- Reads pieces until the text ends. `read` are those read so far, last first; `gap` is how many had been
read where two colons stood, which count as a piece themselves. -/
def pieces (fuel : Nat) (read : List Nat) (gap : Option Nat) (cs : List Char) :
    Option (List Nat × Option Nat) :=
  let count := read.length + (if gap.isSome then 1 else 0)
  match fuel, cs with
  | _, [] => some (read, gap)
  | 0, _ => none
  | fuel + 1, ':' :: rest =>
    if gap.isSome || count ≥ 8 then none
    else pieces fuel read (some read.length) rest
  | fuel + 1, cs =>
    if count ≥ 8 then none
    else
      let (value, rest) := piece cs
      match rest with
      | [] => some (value :: read, gap)
      | '.' :: _ =>
        if rest.length == cs.length || count > 6 then none
        else (embedded cs).map fun tail => (tail.reverse ++ read, gap)
      | ':' :: rest => if rest.isEmpty then none else pieces fuel (value :: read) gap rest
      | _ => none

/-- The eight pieces of an address. -/
def parse? (cs : List Char) : Option (List Nat) := do
  if cs.length < 2 then none
  let start ← match cs with
    | ':' :: ':' :: rest => some (some 0, rest)
    | ':' :: _ => none
    | cs => some (none, cs)
  let (read, gap) ← pieces (cs.length + 1) [] start.1 start.2
  let read := read.reverse
  match gap with
  | none => if read.length == 8 then some read else none
  | some place =>
    if read.length > 7 then none
    else some (read.take place ++ List.replicate (8 - read.length) 0 ++ read.drop place)

/-- The longest run of at least two zero pieces, the first of its length: where it begins and ends. -/
def longestZeros (ps : List Nat) : Option (Nat × Nat) :=
  let runs := (List.range ps.length).map fun i => (i, i + ((ps.drop i).takeWhile (· == 0)).length)
  runs.foldl (fun best run =>
    if run.2 - run.1 < 2 then best
    else match best with
      | none => some run
      | some b => if run.2 - run.1 > b.2 - b.1 then some run else best) none

def toString (ps : List Nat) : String :=
  let written (qs : List Nat) := ":".intercalate (qs.map fun n => String.ofList (hexNat n))
  match longestZeros ps with
  | none => "[" ++ written ps ++ "]"
  | some (first, last) => "[" ++ written (ps.take first) ++ "::" ++ written (ps.drop last) ++ "]"

end Ipv6

end Storefront.Url
