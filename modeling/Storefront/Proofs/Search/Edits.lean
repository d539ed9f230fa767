import Mathlib.Data.Finset.Card
import Mathlib.Data.Finset.SymmDiff
import Storefront.Proofs.Search.Labels

/-! # Category sets as sets

However a category set has been edited, its labels are those of a finite set that the same edits
were made to. They are listed in the order in which they came in, each where it came in last. -/

namespace Storefront

namespace CategorySet

open Storefront.Text

/-- What can be done with a category set. -/
inductive Edit where
  | insert (label : String)
  | erase (label : String)
  | toggle (label : String)
  /-- Begins anew with the labels of a list. -/
  | collect (labels : List String)
  deriving DecidableEq, Repr

def edit (s : CategorySet) : Edit → CategorySet
  | .insert label => s.insert label
  | .erase label => s.erase label
  | .toggle label => s.toggle label
  | .collect labels => ofList labels

/-- The set that edits make from the empty one. -/
def edited (edits : List Edit) : CategorySet :=
  edits.foldl edit empty

namespace Edit

/-! ## The finite set beside it -/

/-- A finite set with one label more, unless that is blank. -/
def add (contents : Finset String) (label : String) : Finset String :=
  if blank label then contents else Insert.insert (trim label) contents

/-- What an edit makes of a finite set. -/
def apply (contents : Finset String) : Edit → Finset String
  | .insert label => add contents label
  | .erase label => contents.erase (trim label)
  | .toggle label => if blank label then contents else symmDiff contents {trim label}
  | .collect labels => labels.foldl add ∅

def contents (edits : List Edit) : Finset String :=
  edits.foldl apply ∅

/-- The label that comes into a finite set when one is added. -/
def arrival (contents : Finset String) (label : String) : List String :=
  if blank label ∨ trim label ∈ contents then [] else [trim label]

/-- The labels that come in when some are added one after the other. -/
def arrivalsOf (contents : Finset String) : List String → List String
  | [] => []
  | label :: labels => arrival contents label ++ arrivalsOf (add contents label) labels

/-- The labels that come in with an edit. -/
def arrivals (contents : Finset String) : Edit → List String
  | .insert label => arrival contents label
  | .erase _ => []
  | .toggle label => arrival contents label
  | .collect labels => arrivalsOf ∅ labels

/-- Every label that came in with some of the edits, in their order. -/
def history (contents : Finset String) : List Edit → List String
  | [] => []
  | e :: edits => e.arrivals contents ++ history (e.apply contents) edits

end Edit

variable {s : CategorySet} {contents : Finset String} {past : List String}

/-! ## The order of the labels -/

/-- A label behind others is kept where it stands now. -/
theorem dedup_append_singleton (labels : List String) (label : String) :
    (labels ++ [label]).dedup = (labels.filter (· ≠ label)).dedup ++ [label] := by
  induction labels with
  | nil => rfl
  | cons x labels ih =>
      rw [List.cons_append, List.dedup_cons, ih]
      by_cases heq : x = label
      · simp [heq]
      · rw [List.filter_cons_of_pos (by simpa using heq), List.dedup_cons]
        by_cases hmem : x ∈ labels <;> simp [heq, hmem]

theorem dedup_filter (p : String → Bool) (labels : List String) :
    (labels.filter p).dedup = labels.dedup.filter p := by
  induction labels with
  | nil => rfl
  | cons x labels ih =>
      by_cases hp : p x = true
      · rw [List.filter_cons_of_pos hp, List.dedup_cons, List.dedup_cons, ih]
        by_cases hmem : x ∈ labels <;> simp [hmem, hp]
      · rw [List.filter_cons_of_neg hp, List.dedup_cons, ih]
        by_cases hmem : x ∈ labels <;> simp [hmem, hp]

/-- The labels are those of a finite set, listed as they came in, each where it came in last. -/
structure Lists (s : CategorySet) (contents : Finset String) (past : List String) : Prop
    extends s.Normal where
  mem_iff : ∀ label, label ∈ s.labels ↔ label ∈ contents
  labels_eq : s.labels = (past.filter (· ∈ contents)).dedup

theorem lists_empty (past : List String) : empty.Lists ∅ past :=
  ⟨normal_empty, fun label => by simp [empty], by simp [empty]⟩

theorem Lists.not_mem_of_blank (h : s.Lists contents past) {label : String}
    (hblank : blank label = true) : trim label ∉ contents := by
  rw [← h.mem_iff]
  exact fun hmem => h.ne_empty _ hmem ((trim_eq_empty_iff label).mpr hblank)

theorem Lists.insert (h : s.Lists contents past) (label : String) :
    (s.insert label).Lists (Edit.add contents label) (past ++ Edit.arrival contents label) := by
  have hadmits : s.admits label = true ↔ ¬(blank label = true ∨ trim label ∈ contents) := by
    rw [s.admits_iff, Ne, trim_eq_empty_iff, h.mem_iff, not_or]
  by_cases hin : blank label = true ∨ trim label ∈ contents
  · have hsame : Edit.add contents label = contents := by
      rw [Edit.add]
      split
      · rfl
      · rename_i hblank
        exact Finset.insert_eq_of_mem (hin.resolve_left hblank)
    rw [CategorySet.insert, if_neg (fun hadmit => hadmits.mp hadmit hin), hsame, Edit.arrival,
      if_pos hin, List.append_nil]
    exact h
  · have hnew : Edit.add contents label = Insert.insert (trim label) contents :=
      if_neg fun hblank => hin (.inl hblank)
    have hlabels : (s.insert label).labels = s.labels ++ [trim label] := by
      rw [CategorySet.insert, if_pos (hadmits.mpr hin)]
    refine ⟨h.toNormal.insert label, fun other => ?_, ?_⟩
    · rw [hlabels, hnew, List.mem_append, List.mem_singleton, h.mem_iff, Finset.mem_insert,
        or_comm]
    · have hold : (past.filter (· ∈ Edit.add contents label)).filter (· ≠ trim label) =
          past.filter (· ∈ contents) := by
        rw [List.filter_filter]
        refine List.filter_congr fun other _ => ?_
        rw [hnew, ← Bool.decide_and, decide_eq_decide, Finset.mem_insert]
        constructor
        · rintro ⟨hne, heq | hmem⟩
          · exact absurd heq hne
          · exact hmem
        · exact fun hmem => ⟨fun heq => hin (.inr (heq ▸ hmem)), .inr hmem⟩
      have hlast : [trim label].filter (· ∈ Edit.add contents label) = [trim label] :=
        List.filter_eq_self.mpr (by simp [hnew])
      rw [hlabels, Edit.arrival, if_neg hin, List.filter_append, hlast, dedup_append_singleton,
        hold, h.labels_eq]

theorem Lists.erase (h : s.Lists contents past) (label : String) :
    (s.erase label).Lists (contents.erase (trim label)) past := by
  refine ⟨h.toNormal.erase label, fun other => ?_, ?_⟩
  · rw [CategorySet.erase, List.mem_filter, h.mem_iff, Finset.mem_erase, bne_iff_ne, and_comm]
  · have hleft : past.filter (· ∈ contents.erase (trim label)) =
        (past.filter (· ∈ contents)).filter fun c => c != trim label := by
      rw [List.filter_filter]
      refine List.filter_congr fun other _ => ?_
      rw [Bool.eq_iff_iff, Bool.and_eq_true, decide_eq_true_iff, decide_eq_true_iff, bne_iff_ne,
        Finset.mem_erase]
    rw [hleft, dedup_filter, ← h.labels_eq, CategorySet.erase]

theorem Lists.toggle (h : s.Lists contents past) (label : String) :
    (s.toggle label).Lists ((Edit.toggle label).apply contents)
      (past ++ Edit.arrival contents label) := by
  by_cases hmem : trim label ∈ contents
  · have hblank : ¬blank label = true := fun hblank => h.not_mem_of_blank hblank hmem
    have herase : (Edit.toggle label).apply contents = contents.erase (trim label) := by
      rw [Edit.apply, if_neg hblank]
      grind [Finset.mem_symmDiff]
    rw [CategorySet.toggle, if_pos ((s.erases_iff label).mpr ((h.mem_iff _).mpr hmem)), herase,
      Edit.arrival, if_pos (.inr hmem), List.append_nil]
    exact h.erase label
  · have hadd : (Edit.toggle label).apply contents = Edit.add contents label := by
      rw [Edit.apply, Edit.add]
      split
      · rfl
      · grind [Finset.mem_symmDiff]
    rw [CategorySet.toggle,
      if_neg fun herases => hmem ((h.mem_iff _).mp ((s.erases_iff label).mp herases)), hadd]
    exact h.insert label

theorem Lists.foldl_insert (h : s.Lists contents past) (labels : List String) :
    (labels.foldl CategorySet.insert s).Lists (labels.foldl Edit.add contents)
      (past ++ Edit.arrivalsOf contents labels) := by
  induction labels generalizing s contents past with
  | nil =>
      rw [Edit.arrivalsOf, List.append_nil]
      exact h
  | cons label labels ih =>
      rw [Edit.arrivalsOf, ← List.append_assoc]
      exact ih (h.insert label)

theorem Lists.edit (h : s.Lists contents past) (e : Edit) :
    (s.edit e).Lists (e.apply contents) (past ++ e.arrivals contents) := by
  cases e with
  | insert label => exact h.insert label
  | erase label =>
      rw [Edit.arrivals, List.append_nil]
      exact h.erase label
  | toggle label => exact h.toggle label
  | collect labels => exact (lists_empty past).foldl_insert labels

theorem Lists.foldl_edit (h : s.Lists contents past) (edits : List Edit) :
    (edits.foldl CategorySet.edit s).Lists (edits.foldl Edit.apply contents)
      (past ++ Edit.history contents edits) := by
  induction edits generalizing s contents past with
  | nil =>
      rw [Edit.history, List.append_nil]
      exact h
  | cons e edits ih =>
      rw [Edit.history, ← List.append_assoc]
      exact ih (h.edit e)

theorem lists_edited (edits : List Edit) :
    (edited edits).Lists (Edit.contents edits) (Edit.history ∅ edits) :=
  (lists_empty []).foldl_edit edits

/-! ## Edits and equality -/

theorem Lists.erases_iff (h : s.Lists contents past) (label : String) :
    s.erases label = true ↔ (Edit.erase label).apply contents ≠ contents := by
  rw [CategorySet.erases_iff, h.mem_iff, Edit.apply, Ne, Finset.erase_eq_self, not_not]

theorem Lists.admits_iff (h : s.Lists contents past) (label : String) :
    s.admits label = true ↔ (Edit.insert label).apply contents ≠ contents := by
  rw [CategorySet.admits_iff, h.mem_iff, Ne, trim_eq_empty_iff, Edit.apply, Edit.add]
  split
  · rename_i hblank
    simp [hblank]
  · rename_i hblank
    simp [hblank]

theorem Lists.equiv_iff {t : CategorySet} {others : Finset String} {past' : List String}
    (h : s.Lists contents past) (h' : t.Lists others past') :
    s.equiv t = true ↔ contents = others := by
  rw [CategorySet.equiv_iff, List.perm_ext_iff_of_nodup h.nodup h'.nodup, Finset.ext_iff]
  simp only [h.mem_iff, h'.mem_iff]

theorem Edit.apply_toggle_toggle (contents : Finset String) (label : String) :
    (Edit.toggle label).apply ((Edit.toggle label).apply contents) = contents := by
  simp only [Edit.apply]
  split
  · rfl
  · exact symmDiff_symmDiff_cancel_right _ _

theorem Edit.apply_toggle_comm (contents : Finset String) (label other : String) :
    (Edit.toggle label).apply ((Edit.toggle other).apply contents) =
      (Edit.toggle other).apply ((Edit.toggle label).apply contents) := by
  simp only [Edit.apply]
  split <;> split
  · rfl
  · rfl
  · rfl
  · exact symmDiff_right_comm _ _ _

/-- Edits make of a category set what they make of a finite set of trimmed labels, none of which is
blank. The labels are listed in the order in which they came in, each where it came in last, and an
edit says of itself whether it changes the set. Sets are equal just if they have the same labels, so
a label that is toggled twice is as it was, and it does not matter which of two is toggled first. -/
theorem edited_refines_finset (edits : List Edit) :
    let s := edited edits
    let contents := Edit.contents edits
    (s.labels.Nodup ∧ ∀ label ∈ s.labels, blank label = false ∧ trim label = label) ∧
    (∀ label, label ∈ s.labels ↔ label ∈ contents) ∧
    s.labels = ((Edit.history ∅ edits).filter (· ∈ contents)).dedup ∧
    s.size = contents.card ∧
    (∀ label, s.admits label = true ↔ (Edit.insert label).apply contents ≠ contents) ∧
    (∀ label, s.erases label = true ↔ (Edit.erase label).apply contents ≠ contents) ∧
    (∀ others, s.equiv (edited others) = true ↔ contents = Edit.contents others) ∧
    (∀ label, ((s.toggle label).toggle label).equiv s = true) ∧
    ∀ label other,
      ((s.toggle label).toggle other).equiv ((s.toggle other).toggle label) = true := by
  intro s contents
  have h : s.Lists contents (Edit.history ∅ edits) := lists_edited edits
  refine ⟨⟨h.nodup, fun label hmem => ⟨?_, h.trimmed label hmem⟩⟩, h.mem_iff, h.labels_eq, ?_,
    h.admits_iff, h.erases_iff, fun others => h.equiv_iff (lists_edited others), fun label => ?_,
    fun label other => ?_⟩
  · rw [← Bool.not_eq_true, ← trim_eq_empty_iff, h.trimmed label hmem]
    exact h.ne_empty label hmem
  · have hcontents : contents = s.labels.toFinset := by
      ext label
      rw [List.mem_toFinset, h.mem_iff]
    rw [hcontents, List.toFinset_card_of_nodup h.nodup]
    rfl
  · exact (((h.toggle label).toggle label).equiv_iff h).mpr (Edit.apply_toggle_toggle _ _)
  · exact (((h.toggle label).toggle other).equiv_iff ((h.toggle other).toggle label)).mpr
      (Edit.apply_toggle_comm _ _ _)

/-- A label that comes back comes last. -/
example :
    (edited [.collect [" rugs", "x", "rugs "], .insert " y", .toggle "rugs", .toggle " rugs",
      .insert "x", .erase "\t", .toggle " "]).labels = ["x", "y", "rugs"] := by
  decide +kernel

end CategorySet

end Storefront
