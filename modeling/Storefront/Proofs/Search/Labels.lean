import Storefront.Proofs.Search.Canonical
import Storefront.Proofs.Text.Blank

/-! # The labels of a category set

Whatever operations have made a set, its labels are trimmed, none of them is empty and none stands
there twice. Such labels are taken over one by one, so the set is read back from its own labels. -/

namespace Storefront.CategorySet

open Storefront.Text

/-- Labels as the operations leave them. -/
structure Normal (s : CategorySet) : Prop where
  nodup : s.labels.Nodup
  trimmed : ∀ label ∈ s.labels, trim label = label
  ne_empty : ∀ label ∈ s.labels, label ≠ ""

variable {s : CategorySet}

theorem admits_iff (s : CategorySet) (label : String) :
    s.admits label = true ↔ trim label ≠ "" ∧ trim label ∉ s.labels := by
  simp [admits, contains]

theorem erases_iff (s : CategorySet) (label : String) :
    s.erases label = true ↔ trim label ∈ s.labels := by
  rw [erases, bne_iff_ne, erase, ne_eq, List.length_filter_eq_length_iff]
  simp

/-- A label that is there goes, and any other one that is not blank comes last. -/
theorem labels_toggle (s : CategorySet) (label : String) :
    (s.toggle label).labels =
      if trim label ∈ s.labels then s.labels.filter fun c => c != trim label
      else if blank label then s.labels
      else s.labels ++ [trim label] := by
  by_cases hmem : trim label ∈ s.labels
  · rw [toggle, if_pos ((s.erases_iff label).mpr hmem), if_pos hmem]
    rfl
  rw [toggle, if_neg (mt (s.erases_iff label).mp hmem), if_neg hmem, insert]
  by_cases hblank : blank label = true
  · have hrefused : ¬s.admits label = true := fun hadmits =>
      ((s.admits_iff label).mp hadmits).1 ((trim_eq_empty_iff label).mpr hblank)
    rw [if_neg hrefused, if_pos hblank]
  · have hadmits : s.admits label = true :=
      (s.admits_iff label).mpr ⟨mt (trim_eq_empty_iff label).mp hblank, hmem⟩
    rw [if_pos hadmits, if_neg hblank]

theorem normal_empty : Normal empty :=
  ⟨List.nodup_nil, by simp [empty], by simp [empty]⟩

theorem Normal.insert (h : s.Normal) (label : String) : (s.insert label).Normal := by
  by_cases hadmits : s.admits label = true
  · have hne := ((s.admits_iff label).mp hadmits).1
    have hnodup := nodup_insert h.nodup label
    rw [CategorySet.insert, if_pos hadmits] at hnodup ⊢
    exact ⟨hnodup, by simpa [or_imp, forall_and] using h.trimmed,
      by simpa [or_imp, forall_and, hne] using h.ne_empty⟩
  · rwa [CategorySet.insert, if_neg hadmits]

theorem Normal.erase (h : s.Normal) (label : String) : (s.erase label).Normal :=
  ⟨h.nodup.sublist List.filter_sublist, fun c hc => h.trimmed c (List.mem_of_mem_filter hc),
    fun c hc => h.ne_empty c (List.mem_of_mem_filter hc)⟩

theorem Built.normal (h : s.Built) : s.Normal := by
  induction h with
  | empty => exact normal_empty
  | insert label _ ih => exact ih.insert label
  | erase label _ ih => exact ih.erase label

/-- Normal labels are added behind the ones there are, just as they are. -/
theorem foldl_insert_of_normal {front : List String} (back : List String)
    (h : Normal ⟨front ++ back⟩) : back.foldl CategorySet.insert ⟨front⟩ = ⟨front ++ back⟩ := by
  induction back generalizing front with
  | nil => rw [List.foldl_nil, List.append_nil]
  | cons label back ih =>
      have htrim : trim label = label := h.trimmed label (by simp)
      have hnew : label ∉ front := fun hmem =>
        (List.nodup_append.mp h.nodup).2.2 label hmem label List.mem_cons_self rfl
      have hadmits : CategorySet.admits ⟨front⟩ label = true :=
        (admits_iff _ _).mpr ⟨htrim.symm ▸ h.ne_empty label (by simp), htrim.symm ▸ hnew⟩
      have hinsert : CategorySet.insert ⟨front⟩ label = ⟨front ++ [label]⟩ := by
        rw [CategorySet.insert, if_pos hadmits, htrim]
      rw [List.append_cons] at h ⊢
      rw [List.foldl_cons, hinsert, ih h]

/-- A set is made of its own labels again, in their order. -/
theorem Normal.ofList_labels (h : s.Normal) : ofList s.labels = s :=
  foldl_insert_of_normal s.labels h

end Storefront.CategorySet
