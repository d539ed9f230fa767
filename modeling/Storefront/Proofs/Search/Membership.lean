import Storefront.Proofs.Search.Labels

/-! # Asking a category set for a label

A set holds trimmed labels. Labels are trimmed before they are added or taken out, but a label that
is asked for is taken as it stands. So the answer agrees with what adding and taking out would do
just if the label is trimmed, or its trimmed form is not in the set either. -/

namespace Storefront.CategorySet

open Storefront.Text

variable {s : CategorySet}

theorem contains_iff (s : CategorySet) (label : String) :
    s.contains label = true ↔ label ∈ s.labels := by
  simp [contains]

/-- What is taken out is the trimmed form. -/
theorem erases_iff_contains_trim (s : CategorySet) (label : String) :
    s.erases label = true ↔ s.contains (trim label) = true := by
  rw [erases_iff, contains_iff]

/-- What is added is the trimmed form. -/
theorem admits_iff_not_contains_trim (s : CategorySet) (label : String) :
    s.admits label = true ↔ blank label = false ∧ s.contains (trim label) = false := by
  rw [admits_iff, Ne, trim_eq_empty_iff, Bool.not_eq_true, ← contains_iff, Bool.not_eq_true]

theorem mem_labels_insert (s : CategorySet) {label : String} (hblank : blank label = false)
    (other : String) :
    other ∈ (s.insert label).labels ↔ other ∈ s.labels ∨ other = trim label := by
  by_cases hadmits : s.admits label = true
  · simp [insert, hadmits]
  · have hthere : trim label ∈ s.labels := by
      rw [admits_iff_not_contains_trim, hblank] at hadmits
      simpa [contains] using hadmits
    rw [insert, if_neg hadmits]
    constructor
    · exact Or.inl
    · rintro (hmem | rfl)
      · exact hmem
      · exact hthere

/-- A label that is asked for is found just if it is trimmed and could be taken out. -/
theorem Normal.contains_iff_erases (h : s.Normal) (label : String) :
    s.contains label = true ↔ trim label = label ∧ s.erases label = true := by
  rw [contains_iff, erases_iff]
  constructor
  · intro hmem
    have htrim := h.trimmed label hmem
    rw [htrim]
    exact ⟨rfl, hmem⟩
  · rintro ⟨htrim, hmem⟩
    rwa [htrim] at hmem

/-- The answer is the same for a label and its trimmed form if they are the same, or if not even the
trimmed form is found. -/
theorem Normal.contains_eq_contains_trim_iff (h : s.Normal) (label : String) :
    s.contains label = s.contains (trim label) ↔
      trim label = label ∨ s.contains (trim label) = false := by
  have hcontains := h.contains_iff_erases label
  rw [erases_iff_contains_trim] at hcontains
  by_cases htrim : trim label = label
  · simp [htrim]
  · have hmissed : s.contains label = false := by
      rw [← Bool.not_eq_true, hcontains]
      exact fun hfound => htrim hfound.1
    rw [hmissed, or_iff_right htrim]
    exact eq_comm

theorem Normal.contains_trim_of_blank (h : s.Normal) {label : String}
    (hblank : blank label = true) : s.contains (trim label) = false := by
  rw [← Bool.not_eq_true, contains_iff]
  exact fun hmem => h.ne_empty _ hmem ((trim_eq_empty_iff label).mpr hblank)

/-- In every set that operations can make, a label that is asked for is found just if it is trimmed
and could be taken out. A label can be taken out just if its trimmed form is found, and added just
if it is not blank and its trimmed form is not found. So the answer for the label as it stands says
whether it can be taken out, and whether it can be added, just if it is trimmed or its trimmed form
is not in the set; and a label that has been added is found just if it is trimmed, but its trimmed
form always is. -/
theorem contains_agrees_iff_trimmed (h : s.Built) (label : String) :
    (s.contains label = true ↔ trim label = label ∧ s.erases label = true) ∧
    (s.erases label = true ↔ s.contains (trim label) = true) ∧
    (s.admits label = true ↔ blank label = false ∧ s.contains (trim label) = false) ∧
    ((s.contains label = true ↔ s.erases label = true) ↔
      trim label = label ∨ s.contains (trim label) = false) ∧
    ((s.admits label = true ↔ blank label = false ∧ s.contains label = false) ↔
      trim label = label ∨ s.contains (trim label) = false) ∧
    (blank label = false →
      (s.insert label).contains (trim label) = true ∧
      ((s.insert label).contains label = true ↔ trim label = label)) := by
  have herases := s.erases_iff_contains_trim label
  have hadmits := s.admits_iff_not_contains_trim label
  have hsame := h.normal.contains_eq_contains_trim_iff label
  refine ⟨h.normal.contains_iff_erases label, herases, hadmits, ?_, ?_, fun hblank => ?_⟩
  · rw [herases, ← Bool.eq_iff_iff]
    exact hsame
  · rw [hadmits]
    cases hblank : blank label with
    | true => simp [h.normal.contains_trim_of_blank hblank]
    | false =>
        rw [← hsame]
        cases s.contains label <;> cases s.contains (trim label) <;> simp
  · have hthere : (s.insert label).contains (trim label) = true := by
      rw [contains_iff, s.mem_labels_insert hblank]
      exact .inr rfl
    have hinserted := (h.insert label).normal.contains_iff_erases label
    rw [erases_iff_contains_trim, hthere] at hinserted
    exact ⟨hthere, by simpa using hinserted⟩

/-- A label with white space around it, of which the set has the trimmed form. -/
theorem contains_agrees_iff_trimmed_rugs :
    let s := ofList [" rugs\t", "x"]
    s.Built ∧ s.contains "rugs" = true ∧ s.erases " rugs" = true ∧
      ¬(s.contains " rugs" = true ↔ s.erases " rugs" = true) ∧
      (s.contains "y " = true ↔ s.erases "y " = true) := by
  intro s
  have hbuilt : s.Built := built_ofList _
  have hrugs := contains_agrees_iff_trimmed hbuilt " rugs"
  have hy := contains_agrees_iff_trimmed hbuilt "y "
  have hfound : s.contains (trim " rugs") = true := by decide +kernel
  have hfree : s.contains (trim "y ") = false := by decide +kernel
  refine ⟨hbuilt, by decide +kernel, hrugs.2.1.mpr hfound, ?_, hy.2.2.2.1.mpr (.inr hfree)⟩
  rw [hrugs.2.2.2.1, hfound]
  decide +kernel

/-- A label with a space in front of it, asked of a set that it has been added to: it is not found
there, though it can be taken out and cannot be added again. -/
theorem added_label_not_found :
    let s := empty.insert " rugs"
    s.Built ∧ blank " rugs" = false ∧
      s.contains " rugs" = false ∧ s.erases " rugs" = true ∧ s.admits " rugs" = false := by
  intro s
  exact ⟨.insert " rugs" .empty, by decide +kernel⟩

end Storefront.CategorySet
