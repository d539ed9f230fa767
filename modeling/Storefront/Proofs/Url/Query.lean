import Mathlib.Data.List.TakeWhile
import Storefront.Proofs.Url.Path

/-! # Queries that a reader keeps

Encoded pairs are made of characters that stand for themselves in the query of a URL of any kind. A
reader neither escapes them nor takes them for white space. -/

namespace Storefront.Url

open Storefront.Text

variable {text front : List Char}

/-! ## Queries -/

/-- Whether a character stands in the query of a URL of any kind. -/
def standsInQuery (c : Char) : Bool :=
  c.toNat < 0x80 && keptInSpecialQuery c

theorem forall_mem_form_encode (ps : List (String × String)) :
    ∀ c ∈ Form.encode ps, standsInQuery c = true :=
  Form.forall_mem_encode (by decide) (by decide)
    (fun _ hascii hplain =>
      forall_ascii (p := fun c => Form.plain c = true → standsInQuery c = true) (by decide) hascii
        hplain)
    (by decide) (by decide) (by decide) ps

theorem standsInQuery_iff {c : Char} :
    standsInQuery c = true ↔ c.toNat < 0x80 ∧ keptInSpecialQuery c = true := by
  simp [standsInQuery]

/-- No white space, no control and no number sign stands in a query. -/
theorem excluded_of_standsInQuery {c : Char} (h : standsInQuery c = true) :
    isC0OrSpace c = false ∧ isTabOrBreak c = false ∧ (c == '#') = false :=
  forall_ascii
    (p := fun c => standsInQuery c = true →
      isC0OrSpace c = false ∧ isTabOrBreak c = false ∧ (c == '#') = false)
    (by decide) (standsInQuery_iff.mp h).1 h

theorem encode_of_standsInQuery {kind : Kind} (h : ∀ c ∈ text, standsInQuery c = true) :
    Percent.encode (if kind == .plain then keptInQuery else keptInSpecialQuery) text = text := by
  refine Percent.encode_eq_self fun c hc => ?_
  obtain ⟨hascii, hkept⟩ := standsInQuery_iff.mp (h c hc)
  refine ⟨hascii, ?_⟩
  split
  · exact (Bool.and_eq_true _ _ ▸ hkept).1
  · exact hkept

/-- A query of such characters is kept as it is written. -/
theorem readTail_question (kind : Kind) (h : ∀ c ∈ text, standsInQuery c = true) :
    readTail kind ('?' :: text) = (some (String.ofList text), none) := by
  have hcut : cut (· == '#') text = (text, []) := by
    have hall : ∀ c ∈ text, (!(c == '#')) = true := fun c hc => by
      rw [(excluded_of_standsInQuery (h c hc)).2.2, Bool.not_false]
    rw [cut, List.takeWhile_eq_self_iff.mpr hall, List.dropWhile_eq_nil_iff.mpr hall]
  simp only [readTail, hcut, encode_of_standsInQuery h]

/-! ## White space -/

theorem not_isTabOrBreak_of_standsInPath {c : Char} (h : standsInPath c = true) :
    isTabOrBreak c = false :=
  forall_ascii (p := fun c => standsInPath c = true → isTabOrBreak c = false) (by decide)
    (standsInPath_iff.mp h).1 h

theorem not_isTabOrBreak_of_not_isC0OrSpace {c : Char} (h : isC0OrSpace c = false) :
    isTabOrBreak c = false := by
  refine Bool.eq_false_iff.mpr fun htab => ?_
  simp only [isTabOrBreak, Bool.or_eq_true, beq_iff_eq] at htab
  rcases htab with (rfl | rfl) | rfl <;> exact absurd h (by decide)

theorem joined_eq_self (h : ∀ c ∈ text, isTabOrBreak c = false) : joined text = text :=
  List.filter_eq_self.mpr fun c hc => by rw [h c hc, Bool.not_false]

theorem dropWhile_append_of_not {p : Char → Bool} (hfront : ∀ c ∈ front, p c = false)
    (hne : front ≠ []) (text : List Char) : (front ++ text).dropWhile p = front ++ text := by
  cases front with
  | nil => exact absurd rfl hne
  | cons c front => exact List.dropWhile_cons_of_neg (by simp [hfront c List.mem_cons_self])

theorem trimmed_eq_self (h : ∀ c ∈ text, isC0OrSpace c = false) : trimmed text = text := by
  have hkept : ∀ cs : List Char, (∀ c ∈ cs, isC0OrSpace c = false) → cs.dropWhile isC0OrSpace = cs :=
    fun cs hcs => List.dropWhile_eq_self_iff.mpr fun hlt => by simp [hcs _ (List.getElem_mem hlt)]
  rw [trimmed, hkept text h, hkept _ fun c hc => h c (List.mem_reverse.mp hc), List.reverse_reverse]

/-- White space before a path goes, but none that stands before a query. -/
theorem trimmed_append (h : ∀ c ∈ text, standsInQuery c = true) (path : List Char) :
    trimmed (path ++ '?' :: text) = path.dropWhile isC0OrSpace ++ '?' :: text := by
  have hquery : ∀ c ∈ '?' :: text, isC0OrSpace c = false :=
    List.forall_mem_cons.mpr ⟨rfl, fun c hc => (excluded_of_standsInQuery (h c hc)).1⟩
  have hfront : (path ++ '?' :: text).dropWhile isC0OrSpace =
      path.dropWhile isC0OrSpace ++ '?' :: text := by
    rw [List.dropWhile_append]
    split
    · rename_i hempty
      rw [List.isEmpty_iff.mp hempty]
      rfl
    · rfl
  rw [trimmed, hfront, List.reverse_append, dropWhile_append_of_not, List.reverse_append,
    List.reverse_reverse, List.reverse_reverse]
  · exact fun c hc => hquery c (List.mem_reverse.mp hc)
  · simp

theorem trimmed_prefix_dropWhile (text : List Char) : trimmed text <+: text.dropWhile isC0OrSpace := by
  simpa [trimmed] using List.reverse_prefix.mpr
    (List.dropWhile_suffix isC0OrSpace (l := (text.dropWhile isC0OrSpace).reverse))

end Storefront.Url
