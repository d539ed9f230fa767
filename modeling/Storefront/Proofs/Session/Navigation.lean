import Storefront.Proofs.History
import Storefront.Proofs.Search.Applied
import Storefront.Proofs.Session.Invariant

/-! # What navigating does to the history

A submission adds an entry behind the current one, a change of the categories replaces the current
entry, and going back or ahead moves to another one. The locations that are written on the way differ
from the current one in their search alone, and a submission's in its path. -/

namespace Storefront

/-- A location with this path and this search, whose other parameters are those of another one. -/
structure Location.Becomes (l m : Location) (path : String) (state : SearchState) : Prop where
  path_eq : m.path = path
  state_eq : SearchState.ofLocation m = state
  others_eq : SearchState.others m.pairs = SearchState.others l.pairs

namespace Session

/-- What a submission accepts is what is not blank. -/
theorem accepts_eq_not_blank (text : String) : accepts text = !Text.blank text := by
  have hempty : (Text.trim text).isEmpty = Text.blank text := by
    rw [Bool.eq_iff_iff, String.isEmpty_iff, Text.trim_eq_empty_iff]
  rw [accepts, hempty]

/-- The location of a submission has the path of the results and the categories there are. -/
theorem becomes_searched (s : Session) (text : String) :
    s.history.current.Becomes (s.searched text) s.settings.resultsPath
      { SearchState.ofLocation s.history.current with query := Text.trim text } := by
  let state := { SearchState.ofLocation s.history.current with query := Text.trim text }
  let l := s.history.current.setPath s.settings.resultsPath
  have hquery : Text.trim state.query = state.query := Text.trim_trim text
  have hnormal : state.categories.Normal := SearchState.normal_ofLocation s.history.current
  exact ⟨state.path_applyTo l, SearchState.ofLocation_applyTo hquery hnormal l,
    state.others_applyTo l⟩

/-- Other categories are written onto the current location beside the query there is. -/
theorem becomes_categories (l : Location) {categories : CategorySet} (h : categories.Normal) :
    l.Becomes ({ SearchState.ofLocation l with categories }.applyTo l) l.path
      { SearchState.ofLocation l with categories } := by
  let state := { SearchState.ofLocation l with categories }
  have hquery : Text.trim state.query = state.query := SearchState.trim_query_ofLocation l
  exact ⟨state.path_applyTo l, SearchState.ofLocation_applyTo hquery h l, state.others_applyTo l⟩

end Session

namespace SessionRun

variable {settings : SessionSettings} {r : SessionRun}

/-- A blank submission does nothing at all. -/
theorem step_submit_of_blank {text : String} (h : Text.blank text = true) :
    r.step (.submit text) = r := by
  have hrefused : Session.accepts text = false := by rw [Session.accepts_eq_not_blank, h]; rfl
  simp [step, Session.submit, hrefused]

theorem history_submit {text : String} (h : Text.blank text = false) :
    (r.step (.submit text)).session.history =
      r.session.history.push (r.session.searched text) := by
  have haccepts : Session.accepts text = true := by rw [Session.accepts_eq_not_blank, h]; rfl
  simp only [step, Session.submit, haccepts, if_true]
  exact r.session.visit_history _

theorem history_setCategories (categories : CategorySet) :
    (r.step (.setCategories categories)).session.history =
      r.session.history.replace
        ({ SearchState.ofLocation r.session.history.current with categories }.applyTo
          r.session.history.current) :=
  r.session.visit_history _

/-- A change of the categories, of the current entry and of nothing else in the history. -/
theorem Valid.changes_setCategories (h : Valid settings r) {categories : CategorySet}
    (hnormal : categories.Normal) :
    let before := r.session.history
    let after := (r.step (.setCategories categories)).session.history
    before.Amends after ∧ before.current.Becomes after.current before.current.path
      { r.session.snapshot.state with categories } := by
  intro before after
  have hafter : after = before.replace _ := history_setCategories categories
  rw [hafter, History.current_replace, h.state_eq]
  exact ⟨History.amends_replace _ _, Session.becomes_categories _ hnormal⟩

theorem Valid.changes_submit (h : Valid settings r) {text : String}
    (htext : Text.blank text = false) :
    let before := r.session.history
    let after := (r.step (.submit text)).session.history
    before.Extends after ∧ before.current.Becomes after.current settings.resultsPath
      { r.session.snapshot.state with query := Text.trim text } := by
  intro before after
  have hafter : after = before.push _ := history_submit htext
  rw [hafter, History.current_push, h.state_eq, ← h.settings_eq]
  exact ⟨History.extends_push _ _, r.session.becomes_searched text⟩

theorem step_back_of_none (h : r.session.history.back? = none) : r.step .back = r := by
  simp [step, Session.back, h]

theorem turns_back {history : History} (h : r.session.history.back? = some history) :
    r.session.history.Turns (r.step .back).session.history (r.session.history.cursor - 1) := by
  have hstep : (r.step .back).session.history = history := by
    simp only [step, Session.back, h]
    exact r.session.visit_history _
  exact hstep ▸ History.turns_of_back? h

theorem step_forward_of_none (h : r.session.history.forward? = none) : r.step .forward = r := by
  simp [step, Session.forward, h]

theorem turns_forward {history : History} (h : r.session.history.forward? = some history) :
    r.session.history.Turns (r.step .forward).session.history (r.session.history.cursor + 1) := by
  have hstep : (r.step .forward).session.history = history := by
    simp only [step, Session.forward, h]
    exact r.session.visit_history _
  exact hstep ▸ History.turns_of_forward? h

/-- Wherever a session has got to, from any location it may have started at: a submission is refused
if it is blank, and else goes on to the location of its results; a change of the categories and a
toggle amend the current location; and going back or ahead turns to another entry or, at the ends,
is refused. What is refused changes nothing. -/
theorem navigation_changes_and_keeps (backend : SearchRequest → Option SearchResult)
    (settings : SessionSettings) (l : Location) (ops : List SessionStep) :
    let r := (start backend (Session.atLocation settings l)).steps ops
    let before := r.session.history
    let state := r.session.snapshot.state
    let after (op : SessionStep) := (r.step op).session.history
    (∀ text, Text.blank text = true →
      Session.accepts text = false ∧ r.step (.submit text) = r) ∧
    (∀ text, Text.blank text = false →
      Session.accepts text = true ∧ before.Extends (after (.submit text)) ∧
      before.current.Becomes (after (.submit text)).current settings.resultsPath
        ⟨Text.trim text, state.categories⟩) ∧
    (∀ categories : CategorySet, categories.Built →
      before.Amends (after (.setCategories categories)) ∧
      before.current.Becomes (after (.setCategories categories)).current before.current.path
        ⟨state.query, categories⟩) ∧
    (∀ label,
      before.Amends (after (.toggle label)) ∧
      before.current.Becomes (after (.toggle label)).current before.current.path
        ⟨state.query, ⟨if Text.trim label ∈ state.categories.labels then
            state.categories.labels.filter fun c => c != Text.trim label
          else if Text.blank label then state.categories.labels
          else state.categories.labels ++ [Text.trim label]⟩⟩) ∧
    (before.cursor = 0 → before.back?.isSome = false ∧ r.step .back = r) ∧
    (before.cursor ≠ 0 →
      before.back?.isSome = true ∧ before.Turns (after .back) (before.cursor - 1)) ∧
    (before.cursor + 1 = before.size → before.forward?.isSome = false ∧ r.step .forward = r) ∧
    (before.cursor + 1 ≠ before.size →
      before.forward?.isSome = true ∧ before.Turns (after .forward) (before.cursor + 1)) := by
  intro r before state after
  have hvalid : Valid settings r := (valid_start backend settings l).steps ops
  refine ⟨?_, ?_, ?_, ?_, ?_, ?_, ?_, ?_⟩
  · intro text hblank
    exact ⟨by rw [Session.accepts_eq_not_blank, hblank]; rfl, step_submit_of_blank hblank⟩
  · intro text hblank
    exact ⟨by rw [Session.accepts_eq_not_blank, hblank]; rfl, hvalid.changes_submit hblank⟩
  · intro categories hbuilt
    exact hvalid.changes_setCategories hbuilt.normal
  · intro label
    have hbuilt : state.categories.Built := by
      rw [show state = _ from hvalid.state_eq]
      exact CategorySet.built_ofList _
    rw [← CategorySet.labels_toggle]
    exact hvalid.changes_setCategories (hbuilt.toggle label).normal
  · intro hcursor
    have hnone : before.back? = none := before.back?_eq_none_iff.mpr hcursor
    exact ⟨by rw [hnone]; rfl, step_back_of_none hnone⟩
  · intro hcursor
    obtain ⟨history, hback⟩ :=
      Option.ne_none_iff_exists'.mp (mt before.back?_eq_none_iff.mp hcursor)
    exact ⟨by rw [hback]; rfl, turns_back hback⟩
  · intro hcursor
    have hnone : before.forward? = none := before.forward?_eq_none_iff.mpr hcursor
    exact ⟨by rw [hnone]; rfl, step_forward_of_none hnone⟩
  · intro hcursor
    obtain ⟨history, hforward⟩ :=
      Option.ne_none_iff_exists'.mp (mt before.forward?_eq_none_iff.mp hcursor)
    exact ⟨by rw [hforward]; rfl, turns_forward hforward⟩

/-- A session that has searched and gone back, over a location that repeats a category. -/
theorem navigation_changes_and_keeps_deals :
    let l : Location := ⟨"/deals", [("cat", " x"), ("page", "2"), ("q", " old "), ("cat", "x")]⟩
    let r := (start (fun _ => none) (Session.atLocation {} l)).steps [.submit "lamp", .back]
    let before := r.session.history
    let after (op : SessionStep) := (r.step op).session.history
    before.current = l ∧ before.size = 2 ∧ r.step (.submit " \t") = r ∧
      before.Extends (after (.submit " rug ")) ∧
      SearchState.ofLocation (after (.submit " rug ")).current = ⟨"rug", ⟨["x"]⟩⟩ ∧
      before.Amends (after (.setCategories (CategorySet.ofList ["B", "A"]))) ∧
      before.Turns (after .forward) 1 ∧ r.step .back = r := by
  intro l r before after
  have hcursor : before.cursor = 0 := by decide +kernel
  have hsize : before.size = 2 := by decide +kernel
  have hstate : r.session.snapshot.state.categories = ⟨["x"]⟩ := by decide +kernel
  obtain ⟨hblank, hsubmit, hcategories, -, hback, -, -, hforward⟩ :=
    navigation_changes_and_keeps (fun _ => none) {} l [.submit "lamp", .back]
  have hrug := hsubmit " rug " (by decide +kernel)
  have hahead := hforward (by rw [hcursor, hsize]; decide)
  refine ⟨by decide +kernel, hsize, (hblank " \t" (by decide +kernel)).2, hrug.2.1, ?_,
    (hcategories _ (CategorySet.built_ofList _)).1, ?_, (hback hcursor).2⟩
  · rw [hrug.2.2.state_eq, hstate]
    decide +kernel
  · rw [← Nat.zero_add 1, ← hcursor]
    exact hahead.2

end SessionRun

end Storefront
