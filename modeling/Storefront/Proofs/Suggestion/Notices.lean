import Storefront.Proofs.Suggestion.Moves

/-! # Notices of the panel

The panel is published when another one is to be laid out, and all it tells of the list is how long
this is. A list that takes the place of another one of its length is therefore shown without any
notice; everything else that is seen to change is noticed. -/

namespace Storefront.Suggestion

/-- The list as it is seen: none while it is hidden. -/
def View.shown (v : View) : Option (List String) :=
  if v.visible then some v.suggestions else none

theorem View.shown_eq_some_iff {v : View} {suggestions : List String} :
    v.shown = some suggestions ↔ v.visible = true ∧ v.suggestions = suggestions := by
  cases hv : v.visible <;> simp [shown, hv]

/-- The list becomes visible or hidden, or its contents change while it is visible. -/
def View.Changes (v w : View) : Prop :=
  v.visible ≠ w.visible ∨
    (v.visible = true ∨ w.visible = true) ∧ v.suggestions ≠ w.suggestions

/-- A list that is seen gives place to another one of its length. -/
def View.Swaps (v w : View) : Prop :=
  ∃ old new, v.shown = some old ∧ w.shown = some new ∧ old ≠ new ∧ old.length = new.length

theorem View.changes_iff (v w : View) : v.Changes w ↔ v.shown ≠ w.shown := by
  cases hv : v.visible <;> cases hw : w.visible <;> simp [Changes, shown, hv, hw]

/-- A change of what is seen changes its length, unless lists are swapped. -/
theorem View.Changes.length_ne_iff {v w : View} (h : v.Changes w) :
    v.shown.map List.length ≠ w.shown.map List.length ↔ ¬v.Swaps w := by
  rw [changes_iff] at h
  cases hv : v.shown <;> cases hw : w.shown <;> simp_all [Swaps]

/-- The panel tells how long the list is that is seen, and nothing else. -/
theorem View.panel_eq_panel_iff (v w : View) (rowHeight : Nat) :
    v.panel rowHeight = w.panel rowHeight ↔
      v.shown.map List.length = w.shown.map List.length := by
  cases hv : v.visible <;> cases hw : w.visible <;> simp [panel, Panel.ofList, shown, hv, hw]
  exact fun h => h ▸ rfl

namespace Input

variable {i : Input}

theorem published_display (i : Input) (v : View) :
    (i.display v).published =
      i.published + if v.panel i.settings.rowHeight = i.panel then 0 else 1 := by
  rw [display]
  split <;> simp [*]

/-- Showing another view publishes a panel once if the one that is to be laid out is another, and
else not. -/
theorem Mirrors.published_of_display (h : i.Mirrors) (j : Input) (hpanel : j.panel = i.panel)
    (hpublished : j.published = i.published) (hsettings : j.settings = i.settings) (v : View) :
    (j.display v).published = i.published +
      if (j.display v).view.shown.map List.length = i.view.shown.map List.length then 0 else 1 := by
  have hmirrors : i.panel = i.view.panel i.settings.rowHeight := h
  rw [published_display, display_view, hpublished, hpanel, hsettings, hmirrors]
  simp only [View.panel_eq_panel_iff]

theorem Mirrors.published_act (h : i.Mirrors) (a : Act) :
    (i.act a).published = i.published +
      if (i.act a).view.shown.map List.length = i.view.shown.map List.length then 0 else 1 := by
  cases a with
  | edit text =>
      rw [Input.act, edit]
      split
      · exact h.published_of_display i.supersede rfl rfl rfl _
      · exact h.published_of_display i rfl rfl rfl _
  | deliver ticket text result =>
      rw [Input.act]
      unfold deliver
      split
      · cases result with
        | ok suggestions => exact h.published_of_display i rfl rfl rfl _
        | error e => exact h.published_of_display (i.record .suggestionFailure) rfl rfl rfl _
      · exact h.published_of_display (i.record .staleSuggestion) rfl rfl rfl _
  | close => exact (if_pos rfl).symm ▸ rfl
  | choose text => exact h.published_of_display i.supersede rfl rfl rfl _
  | submit => exact h.published_of_display i.supersede rfl rfl rfl _
  | blur => exact h.published_of_display i rfl rfl rfl _
  | focus => exact h.published_of_display i rfl rfl rfl _
  | hide => exact h.published_of_display i rfl rfl rfl _
  | lookUp text =>
      exact h.published_of_display { i with lookups := i.lookups.issue.2 } rfl rfl rfl _

/-- Only a reply that counts puts another list in the place of one that is seen. -/
theorem suggestions_act (i : Input) (a : Act) (hshown : (i.act a).view.visible = true) :
    (i.act a).view.suggestions = i.view.suggestions ∨
      ∃ ticket text suggestions, a = .deliver ticket text (.ok suggestions) ∧
        i.lookups.isCurrent ticket = true := by
  cases a with
  | edit text =>
      rw [Input.act, edit] at hshown ⊢
      split at hshown <;> simp_all [View.clear]
  | deliver ticket text result =>
      rw [Input.act] at hshown ⊢
      cases hcurrent : i.lookups.isCurrent ticket with
      | false =>
          unfold deliver
          simp [hcurrent]
      | true =>
          cases result with
          | ok suggestions => exact .inr ⟨ticket, text, suggestions, rfl, hcurrent⟩
          | error e => simp [deliver_error_of_current hcurrent, View.clear] at hshown
  | hide =>
      rw [Input.act, hide] at hshown ⊢
      split at hshown <;> simp_all
  | close => exact .inl rfl
  | choose text => simp [Input.act, choose, View.clear] at hshown
  | submit => simp [Input.act, submit, View.clear] at hshown
  | blur => exact .inl (by simp [Input.act, blur])
  | focus => exact .inl (by simp [Input.act, focus])
  | lookUp text => exact .inl (by simp [Input.act, issue, record])

end Input

namespace Run

variable {r : Run}

/-- Whether a move publishes a panel. -/
def notifies (r : Run) (m : Move) : Bool :=
  (r.move m).input.published != r.input.published

theorem notifies_iff (h : r.input.Mirrors) (m : Move) :
    r.notifies m = true ↔
      r.input.view.shown.map List.length ≠ (r.move m).input.view.shown.map List.length := by
  rw [notifies, bne_iff_ne, (r.moved m).input_eq]
  cases r.act? m with
  | none => exact iff_of_false (· rfl) (· rfl)
  | some a =>
      have hpublished := h.published_act a
      change (r.input.act a).published ≠ _ ↔ _ ≠ (r.input.act a).view.shown.map List.length
      rw [hpublished, ne_comm (a := r.input.view.shown.map List.length)]
      split <;> simp [*]

/-- Lists are swapped by a reply that counts. -/
theorem act?_of_swaps {m : Move} (h : r.input.view.Swaps (r.move m).input.view) :
    ∃ ticket text suggestions, r.act? m = some (.deliver ticket text (.ok suggestions)) ∧
      r.input.lookups.isCurrent ticket = true := by
  obtain ⟨old, new, hold, hnew, hne, -⟩ := h
  have hinput := (r.moved m).input_eq
  cases hact : r.act? m with
  | none =>
      rw [hinput, hact] at hnew
      exact absurd (Option.some.inj (hold.symm.trans hnew)) hne
  | some a =>
      have hview : (r.move m).input = r.input.act a := by rw [hinput, hact]; rfl
      rw [hview] at hnew
      obtain ⟨-, rfl⟩ := View.shown_eq_some_iff.mp hold
      obtain ⟨hvisible, rfl⟩ := View.shown_eq_some_iff.mp hnew
      rcases r.input.suggestions_act a hvisible with
        hsame | ⟨ticket, text, suggestions, rfl, hcurrent⟩
      · exact absurd hsame.symm hne
      · exact ⟨ticket, text, suggestions, rfl, hcurrent⟩

/-- The list that a layout holds which reads what is shown again at each notice. -/
def held (r : Run) (list : Option (List String)) : List Move → Option (List String)
  | [] => list
  | m :: ms =>
    (r.move m).held (if r.notifies m then (r.move m).input.view.shown else list) ms

/-- Whatever is not noticed, the list that a layout holds is as long as the one that is shown. -/
theorem length_held (h : r.input.Mirrors) {list : Option (List String)}
    (hlist : list.map List.length = r.input.view.shown.map List.length) (ms : List Move) :
    (r.held list ms).map List.length = (r.moves ms).input.view.shown.map List.length := by
  induction ms generalizing r list with
  | nil => exact hlist
  | cons m ms ih =>
      have hnext : (r.move m).input.Mirrors := (r.moved m).input_eq ▸ h.acts _
      refine ih hnext ?_
      split
      · rfl
      · rename_i hnot
        rw [hlist]
        by_contra hne
        exact hnot ((notifies_iff h m).mpr hne)

/-- As long as no lists are swapped, a layout holds the list that is shown. -/
theorem held_eq_shown (h : r.input.Mirrors) {ms : List Move}
    (hswaps : ∀ earlier m later, ms = earlier ++ m :: later →
      ¬(r.moves earlier).input.view.Swaps ((r.moves earlier).move m).input.view) :
    r.held r.input.view.shown ms = (r.moves ms).input.view.shown := by
  induction ms generalizing r with
  | nil => rfl
  | cons m ms ih =>
      have hnext : (r.move m).input.Mirrors := (r.moved m).input_eq ▸ h.acts _
      have hlist : (if r.notifies m then (r.move m).input.view.shown else r.input.view.shown) =
          (r.move m).input.view.shown := by
        split
        · rfl
        · rename_i hnot
          by_contra hne
          have hchanges := (View.changes_iff _ _).mpr hne
          exact hnot ((notifies_iff h m).mpr (hchanges.length_ne_iff.mpr (hswaps [] m ms rfl)))
      rw [held, hlist, moves_cons]
      exact ih hnext fun earlier n later hsplit => hswaps (m :: earlier) n later (hsplit ▸ rfl)

/-- In every run a change of the list that is seen is noticed exactly if it is no swap of lists, and
only a reply that counts swaps lists. A layout that reads the list again at each notice holds one of
the right length, and the right one as long as no lists are swapped. A run of events is a run of
moves. -/
theorem change_noticed_iff_not_swaps (settings : SuggestionSettings)
    (backend : String → Option Result) (ms : List Move) :
    let first := start settings backend
    (∀ m, let r := first.moves ms
      let next := r.move m
      (r.input.view.Changes next.input.view →
        (r.notifies m = true ↔ ¬r.input.view.Swaps next.input.view)) ∧
      (¬r.input.view.Changes next.input.view → r.notifies m = false) ∧
      (r.input.view.Swaps next.input.view → ∃ ticket text suggestions,
        r.act? m = some (.deliver ticket text (.ok suggestions)) ∧
          r.input.lookups.isCurrent ticket = true)) ∧
    (first.held none ms).map List.length = (first.moves ms).input.view.shown.map List.length ∧
    ((∀ earlier m later, ms = earlier ++ m :: later →
        ¬(first.moves earlier).input.view.Swaps ((first.moves earlier).move m).input.view) →
      first.held none ms = (first.moves ms).input.view.shown) ∧
    ∀ ss, ∃ ns, first.steps ss = first.moves ns := by
  intro first
  have hfirst : first.input.Mirrors := Input.mirrors_start settings
  refine ⟨fun m => ?_, length_held hfirst rfl ms, held_eq_shown hfirst,
    fun ss => (timed_start settings backend).steps_eq_moves ss⟩
  intro r next
  have hmirrors : r.input.Mirrors := first.input_moves ms ▸ hfirst.acts _
  refine ⟨fun hchanges => (notifies_iff hmirrors m).trans hchanges.length_ne_iff,
    fun hsame => ?_, act?_of_swaps⟩
  rw [View.changes_iff, not_not] at hsame
  refine Bool.eq_false_iff.mpr fun hnotifies => (notifies_iff hmirrors m).mp hnotifies ?_
  exact congrArg (Option.map List.length) hsame

/-- A list of one suggestion takes the place of another one, and whoever reads the list again at
each notice is left with the first. -/
theorem swap_unnoticed :
    let first := start {} fun _ => none
    let ms : List Move :=
      [.event (.edit "a"), .task 0, .task 1, .event (.resolve 0 (.ok ["apple"])), .task 2,
        .event (.edit "b"), .task 3, .task 4, .event (.resolve 1 (.ok ["banana"]))]
    let r := first.moves ms
    r.input.view.Changes (r.move (.task 5)).input.view ∧ r.notifies (.task 5) = false ∧
      first.held none (ms ++ [.task 5]) = some ["apple"] ∧
      (first.moves (ms ++ [.task 5])).input.view.shown = some ["banana"] := by
  intro first ms r
  refine ⟨?_, by decide +kernel, by decide +kernel, by decide +kernel⟩
  exact .inr (by decide +kernel)

end Run

end Storefront.Suggestion
