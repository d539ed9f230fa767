import Storefront.Proofs.Location.Parameters
import Storefront.Proofs.Search.Labels

/-! # Searches written onto locations

A search that is written onto a location is read off it again, and nothing else of the location
changes. The query takes the place of the first one there was; the categories come last. -/

namespace Storefront.SearchState

open Storefront.Location Storefront.Text

variable {s : SearchState} {l m : Location}

/-- The pairs that tell nothing of a search. -/
def others (ps : List (String × String)) : List (String × String) :=
  ps.filter fun p => p.1 != queryKey && p.1 != categoryKey

/-- The pairs that tell the categories. -/
def categoryPairs (s : SearchState) : List (String × String) :=
  s.categories.labels.map fun label => (categoryKey, label)

/-! ## Pairs apart from the search -/

theorem others_append (ps qs : List (String × String)) : others (ps ++ qs) = others ps ++ others qs :=
  List.filter_append ..

theorem filter_filter_eq_others (ps : List (String × String)) :
    ((ps.filter fun p => p.1 != queryKey).filter fun p => p.1 != categoryKey) = others ps := by
  rw [others, List.filter_filter]
  exact List.filter_congr fun p _ => Bool.and_comm _ _

theorem lacks_queryKey_others (ps : List (String × String)) : Lacks queryKey (others ps) :=
  fun _ hp => bne_iff_ne.mp (Bool.and_eq_true_iff.mp (List.mem_filter.mp hp).2).1

theorem lacks_categoryKey_others (ps : List (String × String)) : Lacks categoryKey (others ps) :=
  fun _ hp => bne_iff_ne.mp (Bool.and_eq_true_iff.mp (List.mem_filter.mp hp).2).2

theorem lacks_queryKey_categoryPairs (s : SearchState) : Lacks queryKey s.categoryPairs := by
  intro p hp
  obtain ⟨label, -, rfl⟩ := List.mem_map.mp hp
  exact (by decide : categoryKey ≠ queryKey)

theorem others_of_lacks {ps : List (String × String)} (h : Lacks queryKey ps) :
    (ps.filter fun p => p.1 != categoryKey) = others ps := by
  rw [← filter_filter_eq_others, filter_ne_of_lacks h]

@[simp] theorem others_others (ps : List (String × String)) : others (others ps) = others ps :=
  List.filter_filter.trans (List.filter_congr fun _ _ => Bool.and_self _)

@[simp] theorem others_cons_query (query : String) (ps : List (String × String)) :
    others ((queryKey, query) :: ps) = others ps :=
  List.filter_cons_of_neg (by simp)

@[simp] theorem others_categoryPairs (s : SearchState) : others s.categoryPairs = [] := by
  refine List.filter_eq_nil_iff.mpr fun p hp => ?_
  obtain ⟨label, -, rfl⟩ := List.mem_map.mp hp
  simp

/-! ## What is written -/

theorem foldl_append_category (labels : List String) (l : Location) :
    labels.foldl (fun l label => l.append categoryKey label) l =
      { l with pairs := l.pairs ++ labels.map fun label => (categoryKey, label) } := by
  induction labels generalizing l with
  | nil => simp
  | cons label labels ih =>
      rw [List.foldl_cons, ih]
      simp [append]

/-- Writing a search onto a location leaves its path alone. -/
theorem path_applyTo (s : SearchState) (l : Location) : (s.applyTo l).path = l.path := by
  rw [applyTo, foldl_append_category]
  split <;> simp

theorem pairs_applyTo_of_empty (h : s.query = "") (l : Location) :
    (s.applyTo l).pairs = others l.pairs ++ s.categoryPairs := by
  have hempty : s.query.isEmpty = true := String.isEmpty_iff.mpr h
  simp only [applyTo, hempty, if_true, foldl_append_category, pairs_delete, filter_filter_eq_others]
  rfl

theorem pairs_applyTo_of_ne (h : s.query ≠ "") (l : Location) :
    (s.applyTo l).pairs =
      ((l.set queryKey s.query).pairs.filter fun p => p.1 != categoryKey) ++ s.categoryPairs := by
  have hempty : s.query.isEmpty = false := by simpa using h
  simp only [applyTo, hempty, Bool.false_eq_true, if_false, foldl_append_category, pairs_delete]
  rfl

theorem filter_cons_query (query : String) (ps : List (String × String)) :
    (((queryKey, query) :: ps).filter fun p => p.1 != categoryKey) =
      (queryKey, query) :: ps.filter fun p => p.1 != categoryKey :=
  List.filter_cons_of_pos rfl

/-- A location without a query gets one behind all that is no category. -/
theorem pairs_applyTo_of_lacks (h : s.query ≠ "") (hlacks : Lacks queryKey l.pairs) :
    (s.applyTo l).pairs = others l.pairs ++ (queryKey, s.query) :: s.categoryPairs := by
  rw [pairs_applyTo_of_ne h, pairs_set_of_lacks hlacks, List.filter_append, others_of_lacks hlacks,
    filter_cons_query]
  simp

/-- The query takes the place of the first one. -/
theorem pairs_applyTo_of_first (h : s.query ≠ "") {front back : List (String × String)}
    {old : String} (hpairs : l.pairs = front ++ (queryKey, old) :: back)
    (hlacks : Lacks queryKey front) :
    (s.applyTo l).pairs =
      others front ++ (queryKey, s.query) :: (others back ++ s.categoryPairs) := by
  rw [pairs_applyTo_of_ne h, pairs_set_of_first hpairs hlacks, List.filter_append,
    others_of_lacks hlacks, filter_cons_query, filter_filter_eq_others, List.append_assoc,
    List.cons_append]

/-- What is written stands behind the other pairs, but for the query, which may stand among them. -/
theorem pairs_applyTo_cases (s : SearchState) (l : Location) :
    (s.query = "" ∧ (s.applyTo l).pairs = others l.pairs ++ s.categoryPairs) ∨
    (s.query ≠ "" ∧ ∃ front back, others l.pairs = others front ++ others back ∧
      (s.applyTo l).pairs =
        others front ++ (queryKey, s.query) :: (others back ++ s.categoryPairs)) := by
  by_cases hempty : s.query = ""
  · exact .inl ⟨hempty, pairs_applyTo_of_empty hempty l⟩
  refine .inr ⟨hempty, ?_⟩
  rcases lacks_or_exists_first queryKey l.pairs with hlacks | ⟨front, old, back, hpairs, hlacks⟩
  · exact ⟨l.pairs, [], by simp [others], by simpa [others] using pairs_applyTo_of_lacks hempty hlacks⟩
  · exact ⟨front, back, by rw [hpairs, others_append, others_cons_query],
      pairs_applyTo_of_first hempty hpairs hlacks⟩

/-! ## What is read back -/

theorem others_applyTo (s : SearchState) (l : Location) :
    others (s.applyTo l).pairs = others l.pairs := by
  rcases s.pairs_applyTo_cases l with ⟨-, hpairs⟩ | ⟨-, front, back, hothers, hpairs⟩
  · rw [hpairs, others_append, others_others, others_categoryPairs, List.append_nil]
  · rw [hpairs, hothers, others_append, others_cons_query, others_append, others_others,
      others_others, others_categoryPairs, List.append_nil]

theorem getAll_queryKey_applyTo (s : SearchState) (l : Location) :
    (s.applyTo l).getAll queryKey = if s.query = "" then [] else [s.query] := by
  have hothers := fun ps => filter_eq_nil_of_lacks (lacks_queryKey_others ps)
  have hcategories := filter_eq_nil_of_lacks s.lacks_queryKey_categoryPairs
  rcases s.pairs_applyTo_cases l with ⟨hempty, hpairs⟩ | ⟨hne, front, back, -, hpairs⟩
  · simp [getAll, hpairs, hothers, hcategories, hempty]
  · simp [getAll, hpairs, hothers, hcategories, hne]

theorem getAll_categoryKey_applyTo (s : SearchState) (l : Location) :
    (s.applyTo l).getAll categoryKey = s.categories.labels := by
  have hothers := fun ps => filter_eq_nil_of_lacks (lacks_categoryKey_others ps)
  have hcategories : (s.categoryPairs.filter fun p => p.1 == categoryKey) = s.categoryPairs := by
    simp [categoryPairs]
  have hlabels : s.categoryPairs.map Prod.snd = s.categories.labels := by
    simp [categoryPairs, Function.comp_def]
  have hquery : (queryKey == categoryKey) = false := by decide
  rcases s.pairs_applyTo_cases l with ⟨-, hpairs⟩ | ⟨-, front, back, -, hpairs⟩
  · simp [getAll, hpairs, hothers, hcategories, hlabels]
  · simp [getAll, hpairs, hothers, hcategories, hlabels, hquery]

/-- A search that is written down is read back, its labels in their order. -/
theorem ofLocation_applyTo (hquery : trim s.query = s.query) (hnormal : s.categories.Normal)
    (l : Location) : ofLocation (s.applyTo l) = s := by
  have hget : ((s.applyTo l).get? queryKey).getD "" = s.query := by
    rw [get?_eq_head?_getAll, getAll_queryKey_applyTo]
    split
    · rename_i hempty
      exact hempty.symm
    · rfl
  rw [ofLocation, hget, getAll_categoryKey_applyTo, hnormal.ofList_labels, ofQuery, hquery]

/-- A search that stands there already is written to the same place again. -/
theorem applyTo_applyTo (s : SearchState) (l : Location) : s.applyTo (s.applyTo l) = s.applyTo l := by
  refine eq_of_path_eq_of_pairs_eq (s.path_applyTo _) ?_
  rcases s.pairs_applyTo_cases l with ⟨hempty, hpairs⟩ | ⟨hne, front, back, -, hpairs⟩
  · rw [pairs_applyTo_of_empty hempty, others_applyTo, hpairs]
  · rw [pairs_applyTo_of_first hne hpairs (lacks_queryKey_others front), hpairs]
    simp [others_append]

/-! ## Locations read and written -/

theorem trim_query_ofLocation (l : Location) :
    trim (ofLocation l).query = (ofLocation l).query :=
  trim_trim _

theorem normal_ofLocation (l : Location) : (ofLocation l).categories.Normal :=
  (CategorySet.built_ofList _).normal

/-- What a location has become on which a search was written. -/
structure Written (s : SearchState) (l m : Location) : Prop where
  state_eq : ofLocation m = s
  path_eq : m.path = l.path
  others_eq : others m.pairs = others l.pairs
  queries_le : (m.getAll queryKey).length ≤ 1
  query_place : ∀ front old back, l.pairs = front ++ (queryKey, old) :: back →
    Lacks queryKey front → s.query ≠ "" →
    m.pairs = others front ++ (queryKey, s.query) :: (others back ++ s.categoryPairs)
  stays : s.applyTo m = m

/-- Every search that operations can make is written onto every location, whatever queries and
categories that has. What is read off a location and written onto it is kept, and written the same a
second time. -/
theorem applyTo_keeps_state_and_frame (l : Location) :
    (∀ s : SearchState, trim s.query = s.query → s.categories.Built → s.Written l (s.applyTo l)) ∧
    let kept := (ofLocation l).applyTo l
    ofLocation kept = ofLocation l ∧ (ofLocation kept).applyTo kept = kept := by
  have hkept := ofLocation_applyTo (trim_query_ofLocation l) (normal_ofLocation l) l
  refine ⟨fun s hquery hbuilt => ?_, hkept, ?_⟩
  · refine ⟨ofLocation_applyTo hquery hbuilt.normal l, s.path_applyTo l, s.others_applyTo l, ?_,
      fun front old back hpairs hlacks hne => pairs_applyTo_of_first hne hpairs hlacks,
      s.applyTo_applyTo l⟩
    rw [getAll_queryKey_applyTo]
    split <;> simp
  · rw [hkept]
    exact applyTo_applyTo _ l

/-- Blank, untrimmed and repeated parameters between others. -/
theorem applyTo_keeps_state_and_frame_page :
    let l : Location := ⟨"/deals", [("cat", " x"), ("page", "2"), ("q", " old "), ("cat", ""),
      ("q", "older"), ("sort", "up"), ("cat", "x")]⟩
    let s : SearchState := ⟨"lamp", CategorySet.ofList [" Rugs", "x ", "Rugs", " "]⟩
    trim s.query = s.query ∧ s.categories.Built ∧ s.Written l (s.applyTo l) ∧
      (s.applyTo l).pairs =
        [("page", "2"), ("q", "lamp"), ("sort", "up"), ("cat", "Rugs"), ("cat", "x")] := by
  intro l s
  have hquery : trim s.query = s.query := by decide +kernel
  have hbuilt : s.categories.Built := CategorySet.built_ofList _
  exact ⟨hquery, hbuilt, (applyTo_keeps_state_and_frame l).1 s hquery hbuilt, by decide +kernel⟩

end Storefront.SearchState
