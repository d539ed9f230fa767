import Storefront.Proofs.Text.Form
import Storefront.SearchState

/-! # Canonical forms tell searches apart -/

namespace Storefront

/-! ## Category sets -/

namespace CategorySet

theorem sorted_perm (s : CategorySet) : s.sorted.Perm s.labels :=
  List.mergeSort_perm _ _

theorem pairwise_sorted (s : CategorySet) : s.sorted.Pairwise (· ≤ ·) := by
  have htrans : ∀ a b c : String,
      decide (a ≤ b) = true → decide (b ≤ c) = true → decide (a ≤ c) = true := by
    intro a b c hab hbc
    exact decide_eq_true (String.le_trans (of_decide_eq_true hab) (of_decide_eq_true hbc))
  have htotal : ∀ a b : String, (decide (a ≤ b) || decide (b ≤ a)) = true := by
    intro a b
    simpa using String.le_total a b
  exact (List.pairwise_mergeSort htrans htotal s.labels).imp fun hab => of_decide_eq_true hab

/-- Sorting forgets the order of the labels and nothing else. -/
theorem sorted_eq_sorted_iff (s t : CategorySet) :
    s.sorted = t.sorted ↔ s.labels.Perm t.labels := by
  constructor
  · intro h
    exact (h ▸ s.sorted_perm).symm.trans t.sorted_perm
  · intro h
    have hperm : s.sorted.Perm t.sorted := (s.sorted_perm.trans h).trans t.sorted_perm.symm
    exact hperm.eq_of_pairwise (fun _ _ _ _ => String.le_antisymm) s.pairwise_sorted
      t.pairwise_sorted

theorem equiv_iff (s t : CategorySet) : s.equiv t = true ↔ s.labels.Perm t.labels := by
  rw [equiv, beq_iff_eq, sorted_eq_sorted_iff]

theorem nodup_insert {s : CategorySet} (h : s.labels.Nodup) (label : String) :
    (s.insert label).labels.Nodup := by
  unfold insert
  split
  · rename_i hadmits
    have hnew : Text.trim label ∉ s.labels := by
      simp only [admits, contains, Bool.and_eq_true, Bool.not_eq_true', List.contains_eq_mem,
        decide_eq_false_iff_not] at hadmits
      exact hadmits.2
    refine List.nodup_append.mpr ⟨h, by simp, ?_⟩
    intro a ha b hb hab
    rw [List.mem_singleton] at hb
    exact hnew (hb ▸ hab ▸ ha)
  · exact h

theorem nodup_foldl_insert (labels : List String) {s : CategorySet} (h : s.labels.Nodup) :
    (labels.foldl insert s).labels.Nodup := by
  induction labels generalizing s with
  | nil => exact h
  | cons label labels ih => exact ih (nodup_insert h label)

theorem nodup_ofList (labels : List String) : (ofList labels).labels.Nodup :=
  nodup_foldl_insert labels List.nodup_nil

/-- The sets that the operations make. -/
inductive Built : CategorySet → Prop
  | empty : Built empty
  | insert {s : CategorySet} (label : String) : Built s → Built (s.insert label)
  | erase {s : CategorySet} (label : String) : Built s → Built (s.erase label)

theorem Built.toggle {s : CategorySet} (h : s.Built) (label : String) : (s.toggle label).Built := by
  rw [CategorySet.toggle]
  split
  · exact h.erase label
  · exact h.insert label

theorem Built.foldl_insert (labels : List String) {s : CategorySet} (h : s.Built) :
    (labels.foldl CategorySet.insert s).Built := by
  induction labels generalizing s with
  | nil => exact h
  | cons label labels ih => exact ih (h.insert label)

theorem built_ofList (labels : List String) : (ofList labels).Built :=
  Built.foldl_insert labels .empty

theorem Built.nodup {s : CategorySet} (h : s.Built) : s.labels.Nodup := by
  induction h with
  | empty => exact List.nodup_nil
  | insert label _ ih => exact nodup_insert ih label
  | erase label _ ih => exact ih.sublist List.filter_sublist

end CategorySet

/-! ## Search states -/

namespace SearchState

theorem nodup_ofLocation (l : Location) : (ofLocation l).categories.labels.Nodup :=
  CategorySet.nodup_ofList _

theorem canonicalPairs_injective {s t : SearchState} (h : s.canonicalPairs = t.canonicalPairs) :
    s.query = t.query ∧ s.categories.sorted = t.categories.sorted := by
  simp only [canonicalPairs, List.cons.injEq, Prod.mk.injEq, true_and] at h
  refine ⟨h.1, ?_⟩
  have hlabels := congrArg (List.map Prod.snd) h.2
  simpa [Function.comp_def] using hlabels

/-- The canonical form is that of no other search: it tells the query and the labels, but not their
order. -/
theorem canonical_eq_canonical_iff (s t : SearchState) :
    s.canonical = t.canonical ↔
      s.query = t.query ∧ s.categories.labels.Perm t.categories.labels := by
  rw [← CategorySet.sorted_eq_sorted_iff]
  constructor
  · intro h
    exact canonicalPairs_injective (Text.Form.encode_injective (String.ofList_injective h))
  · rintro ⟨hquery, hsorted⟩
    simp [canonical, canonicalPairs, hquery, hsorted]

/-- The same query and the same set of categories. -/
def SameSearch (s t : SearchState) : Prop :=
  s.query = t.query ∧ ∀ label, label ∈ s.categories.labels ↔ label ∈ t.categories.labels

theorem canonical_eq_canonical_iff_sameSearch {s t : SearchState} (hs : s.categories.labels.Nodup)
    (ht : t.categories.labels.Nodup) : s.canonical = t.canonical ↔ s.SameSearch t := by
  rw [canonical_eq_canonical_iff, SameSearch, List.perm_ext_iff_of_nodup hs ht]

/-- Two states have the same canonical form exactly if they are the same search: the same query, and
the same labels in whatever order. No sign of the format and no character outside ASCII in a query or
a label can blur this. -/
theorem canonical_eq_canonical_iff_equiv (s t : SearchState) :
    (s.canonical = t.canonical ↔ s.equiv t = true) ∧
    (s.equiv t = true ↔ s.query = t.query ∧ s.categories.labels.Perm t.categories.labels) ∧
    (s.categories.Built → t.categories.Built → (s.equiv t = true ↔ s.SameSearch t)) := by
  have hequiv : s.equiv t = true ↔
      s.query = t.query ∧ s.categories.labels.Perm t.categories.labels := by
    rw [equiv, Bool.and_eq_true, beq_iff_eq, CategorySet.equiv_iff]
  refine ⟨(canonical_eq_canonical_iff s t).trans hequiv.symm, hequiv, fun hs ht => ?_⟩
  rw [hequiv, SameSearch, List.perm_ext_iff_of_nodup hs.nodup ht.nodup]

/-- The order of the labels does not show, and a query that looks like a category is none. -/
theorem canonical_eq_canonical_iff_equiv_ampersand :
    let s : SearchState := ⟨"é & b", CategorySet.ofList ["x=1", "y +%"]⟩
    let t : SearchState := ⟨"é & b", CategorySet.ofList ["y +%", "x=1"]⟩
    let u : SearchState := ⟨"é", CategorySet.ofList ["b"]⟩
    let v : SearchState := ⟨"é&cat=b", CategorySet.empty⟩
    s.canonical = t.canonical ∧ s.SameSearch t ∧ u.canonical ≠ v.canonical := by
  intro s t u v
  have hst := canonical_eq_canonical_iff_equiv s t
  have huv := canonical_eq_canonical_iff_equiv u v
  have hequiv : s.equiv t = true := hst.2.1.mpr ⟨rfl, by decide +kernel⟩
  refine ⟨hst.1.mpr hequiv, ?_, fun h => ?_⟩
  · exact (hst.2.2 (CategorySet.built_ofList _) (CategorySet.built_ofList _)).mp hequiv
  · exact absurd (huv.2.1.mp (huv.1.mp h)).1 (by decide +kernel)

theorem eq_of_query_eq_of_labels_eq {s t : SearchState} (hquery : s.query = t.query)
    (hlabels : s.categories.labels = t.categories.labels) : s = t := by
  obtain ⟨_, ⟨_⟩⟩ := s
  obtain ⟨_, ⟨_⟩⟩ := t
  cases hquery
  cases hlabels
  rfl

end SearchState

end Storefront
