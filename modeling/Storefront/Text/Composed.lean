import Std.Data.HashMap
import Storefront.Text.Decomposition
import Storefront.Text.Mark

/-!
# Composed text

The normal form in which texts that are canonically the same are equal: characters are taken apart, their marks put
in the order of their classes, and all put together again as far as it goes.
-/

namespace Storefront.Text

/-! ## Hangul

A syllable is a leading consonant, a vowel and perhaps a trailing consonant, and its number follows from theirs. -/

namespace Hangul

/-- The leading consonants, the vowels, and the syllables with a trailing consonant or none for both. -/
def leads : Nat := 19
def vowels : Nat := 21
def trails : Nat := 28

def firstLead : Nat := 0x1100
def firstVowel : Nat := 0x1161
/-- The place before the first trailing consonant stands for none. -/
def noTrail : Nat := 0x11A7
def firstSyllable : Nat := 0xAC00

/-- The number of a syllable. -/
def syllable? (n : Nat) : Option Nat :=
  if firstSyllable ≤ n && n < firstSyllable + leads * vowels * trails then some (n - firstSyllable) else none

def decompose? (n : Nat) : Option (List Nat) :=
  (syllable? n).map fun s =>
    let trail := s % trails
    [firstLead + s / trails / vowels, firstVowel + s / trails % vowels] ++
      (if trail == 0 then [] else [noTrail + trail])

/-- What two characters make. -/
def compose? (a b : Nat) : Option Nat :=
  if firstLead ≤ a && a < firstLead + leads && firstVowel ≤ b && b < firstVowel + vowels then
    some (firstSyllable + ((a - firstLead) * vowels + (b - firstVowel)) * trails)
  else
    match syllable? a with
    | some s => if s % trails == 0 && noTrail < b && b < noTrail + trails then some (a + (b - noTrail)) else none
    | none => none

end Hangul

/-! ## Taking apart -/

/-- A step of the decomposition of a text. -/
def decomposeOnce (cs : List Char) : List Char :=
  cs.flatMap fun c =>
    match Hangul.decompose? c.toNat with
    | some parts => parts.map Char.ofNat
    | none => (Substitution.find? decompositions c).getD [c]

/-- Puts a character before a text, behind the marks at its front that have a smaller class. -/
def placeMark (c : Char) : List Char → List Char
  | [] => [c]
  | d :: ds =>
    if combiningClass d ≠ 0 && combiningClass d < combiningClass c then d :: placeMark c ds else c :: d :: ds

/-- Decomposed text with its marks in order. No character takes more than three steps. -/
def decomposed (cs : List Char) : List Char :=
  (decomposeOnce (decomposeOnce (decomposeOnce cs))).foldr placeMark []

/-! ## Putting together -/

/-- The characters that stand for two others. -/
def composites : Std.HashMap (Nat × Nat) Nat :=
  decompositions.foldl (fun table s =>
    s.members.foldl (fun table member =>
      match member with
      | (n, [a, b]) => if inRanges decomposedRanges n then table else table.insert (a, b) n
      | _ => table) table) {}

def compose? (a b : Char) : Option Char :=
  ((Hangul.compose? a.toNat b.toNat).or composites[(a.toNat, b.toNat)]?).map Char.ofNat

/-- Puts what follows `starter` together with it, where nothing of the same class or a higher one stands between.
`kept` is what stays between, last one first, and `last` the class of the last of it. -/
def composeFrom (starter : Char) (kept : List Char) (last : Nat) : List Char → List Char
  | [] => starter :: kept.reverse
  | c :: cs =>
    let number := combiningClass c
    match if kept.isEmpty || last < number then compose? starter c else none with
    | some both => composeFrom both kept last cs
    | none =>
      if number = 0 then starter :: kept.reverse ++ composeFrom c [] 0 cs
      else composeFrom starter (c :: kept) number cs

/-- The composed form of a text. -/
def composed (cs : List Char) : List Char :=
  let cs := decomposed cs
  let marks := cs.takeWhile (combiningClass · ≠ 0)
  match cs.drop marks.length with
  | [] => marks
  | starter :: rest => marks ++ composeFrom starter [] 0 rest

end Storefront.Text
