/-!
# Blank text

Which characters count as white space, and trimming by them. A trimmed text begins and ends with a
character that is no white space; trimming is what every label and query goes through before it is
compared with another.
-/

namespace Storefront.Text

/-- The characters with the Unicode property `White_Space`. -/
def isBlank (c : Char) : Bool :=
  (0x09 ≤ c.toNat && c.toNat ≤ 0x0D) || c.toNat == 0x20 || c.toNat == 0x85 || c.toNat == 0xA0 ||
    c.toNat == 0x1680 || (0x2000 ≤ c.toNat && c.toNat ≤ 0x200A) || c.toNat == 0x2028 ||
    c.toNat == 0x2029 || c.toNat == 0x202F || c.toNat == 0x205F || c.toNat == 0x3000

/-- A list without the longest run at its end whose members all satisfy `p`. -/
def dropWhileEnd (p : Char → Bool) : List Char → List Char
  | [] => []
  | c :: cs =>
    match dropWhileEnd p cs with
    | [] => if p c then [] else [c]
    | rest => c :: rest

def trimList (cs : List Char) : List Char :=
  dropWhileEnd isBlank (cs.dropWhile isBlank)

def trim (s : String) : String :=
  String.ofList (trimList s.toList)

/-- Nothing but white space, or nothing at all. -/
def blank (s : String) : Bool :=
  s.toList.all isBlank

theorem dropWhileEnd_eq_nil_iff (p : Char → Bool) (cs : List Char) :
    dropWhileEnd p cs = [] ↔ cs.all p := by
  induction cs with
  | nil => simp [dropWhileEnd]
  | cons c cs ih =>
    cases h : dropWhileEnd p cs with
    | nil =>
      have hall : cs.all p := ih.1 h
      by_cases hc : p c <;> simp_all [dropWhileEnd]
    | cons d ds =>
      have hall : ¬ cs.all p := fun hc => by simp [ih.2 hc] at h
      simp_all [dropWhileEnd]

end Storefront.Text
