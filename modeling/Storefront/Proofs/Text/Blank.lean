import Mathlib.Data.List.DropRight
import Storefront.Text.Blank

/-! # Trimming once is enough -/

namespace Storefront.Text

theorem dropWhileEnd_cons (p : Char → Bool) (c : Char) (cs : List Char) :
    dropWhileEnd p (c :: cs) =
      if cs.all p then (if p c then [] else [c]) else c :: dropWhileEnd p cs := by
  rw [dropWhileEnd]
  split
  · rename_i h
    rw [if_pos ((dropWhileEnd_eq_nil_iff p cs).mp h)]
  · rename_i h
    rw [if_neg fun hall => h ((dropWhileEnd_eq_nil_iff p cs).mpr hall)]

theorem dropWhileEnd_eq_rdropWhile (p : Char → Bool) (cs : List Char) :
    dropWhileEnd p cs = cs.rdropWhile p := by
  induction cs with
  | nil => rfl
  | cons c cs ih =>
      rw [dropWhileEnd_cons, ih, List.rdropWhile, List.rdropWhile, List.reverse_cons,
        List.dropWhile_append]
      by_cases hall : cs.all p = true
      · have hnil : cs.reverse.dropWhile p = [] := by
          simpa [List.dropWhile_eq_nil_iff] using hall
        simp only [hall, if_true, hnil, List.isEmpty_nil, List.dropWhile_cons, List.dropWhile_nil]
        split <;> rfl
      · have hne : cs.reverse.dropWhile p ≠ [] := by
          simpa [List.dropWhile_eq_nil_iff] using hall
        simp [hall, hne]

/-- A trimmed text begins with no white space, whatever has been taken off its end. -/
theorem dropWhile_trimList (cs : List Char) : (trimList cs).dropWhile isBlank = trimList cs := by
  have hstart : trimList cs <+: cs.dropWhile isBlank := by
    rw [trimList, dropWhileEnd_eq_rdropWhile]
    exact List.rdropWhile_prefix isBlank _
  refine List.dropWhile_eq_self_iff.mpr fun hlt => ?_
  rw [hstart.getElem hlt]
  exact List.dropWhile_get_zero_not isBlank cs _

theorem trimList_trimList (cs : List Char) : trimList (trimList cs) = trimList cs := by
  rw [trimList, dropWhile_trimList, trimList, dropWhileEnd_eq_rdropWhile,
    dropWhileEnd_eq_rdropWhile]
  exact List.rdropWhile_idempotent isBlank _

@[simp] theorem trim_trim (s : String) : trim (trim s) = trim s := by
  simp only [trim, String.toList_ofList, trimList_trimList]

theorem blank_eq_false_of_mem {s : String} {c : Char} (hmem : c ∈ s.toList)
    (hc : isBlank c = false) : blank s = false := by
  rw [blank, List.all_eq_false]
  exact ⟨c, hmem, Bool.eq_false_iff.mp hc⟩

/-- Nothing is left of a blank text, and something of every other. -/
theorem trim_eq_empty_iff (s : String) : trim s = "" ↔ blank s = true := by
  have hdrop : trimList s.toList = [] ↔ s.toList.all isBlank = true := by
    rw [trimList, dropWhileEnd_eq_nil_iff]
    constructor
    · intro hall
      have hkept : s.toList.all isBlank =
          (s.toList.takeWhile isBlank ++ s.toList.dropWhile isBlank).all isBlank := by
        rw [List.takeWhile_append_dropWhile]
      rw [hkept, List.all_append, hall, Bool.and_true, List.all_eq_true]
      exact fun c hc => List.mem_takeWhile_imp hc
    · intro hall
      refine List.all_eq_true.mpr fun c hc => ?_
      exact List.all_eq_true.mp hall c ((List.dropWhile_sublist isBlank).subset hc)
  rw [blank, ← hdrop, trim, String.ofList_eq_empty_iff]

end Storefront.Text
