import Storefront.Proofs.Suggestion.Origin

/-! # Barriers

A submission, a choice and a blank text take back whatever was asked for before. Nothing is suggested
from then on until a text that is typed later has been looked up and answered. -/

namespace Storefront.Suggestion

/-- A view without suggestions. -/
structure View.Bare (v : View) : Prop where
  suggestions_eq : v.suggestions = []
  suggestionsFor_eq : v.suggestionsFor = ""
  visible_eq : v.visible = false

theorem View.bare_clear (v : View) : v.clear.Bare :=
  ⟨rfl, rfl, rfl⟩

/-- Whether an event takes back what was asked for. -/
def Step.clears : Step → Bool
  | .choose _ | .submit => true
  | .edit text => Text.blank text
  | _ => false

namespace Input

variable {i : Input}

/-- Of all acts only a list that counts brings suggestions where there are none. -/
theorem bare_act (h : i.view.Bare) {a : Act}
    (ha : ∀ ticket text suggestions, a = .deliver ticket text (.ok suggestions) →
      i.lookups.isCurrent ticket = false) : (i.act a).view.Bare := by
  rw [view_act]
  cases a with
  | edit text =>
      rw [viewAfter]
      split
      · exact View.bare_clear _
      · exact ⟨h.suggestions_eq, h.suggestionsFor_eq, h.visible_eq⟩
  | choose text => exact View.bare_clear _
  | submit => exact View.bare_clear _
  | blur => exact ⟨h.suggestions_eq, h.suggestionsFor_eq, h.visible_eq⟩
  | focus =>
      have hhidden : (!i.view.suggestions.isEmpty && i.view.suggestionsFor == i.view.draft) =
          false := by simp [h.suggestions_eq]
      exact ⟨h.suggestions_eq, h.suggestionsFor_eq, hhidden⟩
  | hide =>
      rw [viewAfter]
      split
      · exact h
      · exact ⟨h.suggestions_eq, h.suggestionsFor_eq, rfl⟩
  | close => exact h
  | lookUp text => exact h
  | deliver ticket text result =>
      rw [viewAfter]
      split
      · cases result with
        | ok suggestions => cases ‹_ = true›.symm.trans (ha ticket text suggestions rfl)
        | error e => exact View.bare_clear _
      · exact h

end Input

namespace Run

/-- In the course of moves a lookup begins whose text is typed before it, and is answered by a list
while it counts. -/
def Fetches (r : Run) (ms : List Move) : Prop :=
  ∃ earlier m later l suggestions, ms = earlier ++ m :: later ∧ r.Begins earlier l ∧
    (r.moves earlier).act? m = some (.deliver l.ticket l.text (.ok suggestions)) ∧
    (r.moves earlier).input.lookups.isCurrent l.ticket = true

variable {r next : Run} {ms : List Move}

theorem Fetches.append (h : r.Fetches ms) (ns : List Move) : r.Fetches (ms ++ ns) := by
  obtain ⟨earlier, m, later, l, suggestions, rfl, hbegins, hact, hcurrent⟩ := h
  exact ⟨earlier, m, later ++ ns, l, suggestions, by simp, hbegins, hact, hcurrent⟩

/-- Nothing is fetched unless something is typed. -/
theorem Fetches.exists_edit (h : r.Fetches ms) : ∃ text, Move.event (.edit text) ∈ ms := by
  obtain ⟨_, m, later, l, suggestions, rfl, hbegins, -, -⟩ := h
  obtain ⟨_, id, between, rfl, htypes, -, -⟩ := hbegins
  obtain ⟨earlier, quiet, rfl, -, -, -⟩ := htypes
  exact ⟨l.text, by simp⟩

/-! ## What a barrier leaves -/

/-- What is left of a run: no suggestions, no text that waits to be looked up, and no ticket that
counts. -/
structure Cleared (before after : Run) : Prop where
  bare : after.input.view.Bare
  waiting : ∀ t ∈ after.agenda.tasks, t.job.isLookUp = false
  latest_lt : before.input.lookups.latest < after.input.lookups.latest

theorem Timed.waiting_of_cancelDebounce (h : r.Timed) {t : Agenda.Task Job}
    (ht : t ∈ r.cancelDebounce.agenda.tasks) : t.job.isLookUp = false := by
  have htasks : r.cancelDebounce.agenda.tasks = r.agenda.tasks.filter fun t => !t.job.isLookUp :=
    Timers.tasks_cancelDebounce h
  rw [htasks] at ht
  simpa using (List.mem_filter.mp ht).2

/-- A choice or a submission gives up the text that was on its way. -/
theorem Timed.waiting_of_cancelTimers (h : r.Timed)
    (hagenda : next.agenda = r.cancelDebounce.cancelBlur.agenda) :
    ∀ t ∈ next.agenda.tasks, t.job.isLookUp = false := by
  intro t ht
  rw [hagenda] at ht
  exact h.waiting_of_cancelDebounce (Agenda.mem_cancelSlot.mp ht).1

theorem Timed.cleared (h : r.Timed) {s : Step} (hs : s.clears = true) (hlive : r.live = true) :
    Cleared r (r.move (.event s)) := by
  have hlatest : ∀ a : Act, a.supersedes = true →
      r.input.lookups.latest < (r.input.act a).lookups.latest := by
    intro a ha
    rw [Input.latest_act, ha]
    exact Nat.lt_succ_self _
  cases s with
  | choose text =>
      have hnext : r.move (.event (.choose text)) = r.choose text := if_pos hlive
      have hinput : (r.choose text).input = r.input.choose text := input_submitText _ _
      rw [hnext]
      refine ⟨?_, h.waiting_of_cancelTimers (r.choose_eq text).1, ?_⟩
      · rw [hinput, Input.choose, Input.display_view]
        exact View.bare_clear _
      · rw [hinput]
        exact hlatest (.choose text) rfl
  | submit =>
      have hnext : r.move (.event .submit) = r.submit := if_pos hlive
      have hinput : r.submit.input = r.input.submit := input_submitText _ _
      rw [hnext]
      refine ⟨?_, h.waiting_of_cancelTimers r.submit_eq.1, ?_⟩
      · rw [hinput, Input.submit, Input.display_view]
        exact View.bare_clear _
      · rw [hinput]
        exact hlatest .submit rfl
  | edit text =>
      have hnext : r.move (.event (.edit text)) = r.edit text := if_pos hlive
      have hinput : (r.edit text).input = r.input.edit text := (Moved.edit text hlive).input_eq
      have hblank : Text.blank text = true := hs
      have hlooksUp : r.input.looksUp text = false := by simp [Input.looksUp, hblank]
      rw [hnext]
      refine ⟨?_, ?_, ?_⟩
      · rw [hinput, Input.edit, if_pos hblank, Input.display_view]
        exact View.bare_clear _
      · intro t ht
        rw [(r.edit_eq text).1, if_neg (Bool.eq_false_iff.mp hlooksUp)] at ht
        exact h.cancelBlur.waiting_of_cancelDebounce ht
      · rw [hinput]
        exact hlatest (.edit text) hs
  | _ => cases hs

/-! ## Behind a barrier -/

/-- No event begins a lookup. -/
theorem lookupsOf_event (r : Run) (i : Input) (s : Step) :
    i.lookupsOf (r.act? (.event s)).toList = [] := by
  rw [act?]
  split
  · cases s <;> rfl
  · rfl

/-- A reply that counts after a barrier is to a lookup that began after it. -/
theorem mem_lookupsOf_of_current {settings : SuggestionSettings}
    {backend : String → Option Result} {before after : List Move} {s : Step} :
    let r := (start settings backend).moves before
    let cleared := r.move (.event s)
    Cleared r cleared →
    ∀ {m ticket text result}, (cleared.moves after).act? m = some (.deliver ticket text result) →
      (cleared.moves after).input.lookups.isCurrent ticket = true →
      ⟨ticket, text⟩ ∈ cleared.input.lookupsOf (cleared.actsOf after) := by
  intro r cleared hcleared m ticket text result hact hcurrent
  have hmoves : (start settings backend).moves (before ++ .event s :: after) =
      cleared.moves after := moves_append _ _ _
  have hbegun := lookup_mem_of_act? settings backend (before ++ .event s :: after)
    (hmoves ▸ hact)
  rw [actsOf_append, Input.lookupsOf_append, ← input_moves, actsOf, Input.lookupsOf_append,
    lookupsOf_event, List.nil_append, ← (r.moved (.event s)).input_eq] at hbegun
  refine (List.mem_append.mp hbegun).resolve_left fun hearlier => ?_
  -- The ticket of an earlier lookup has been passed for good.
  have hle : ticket.number ≤ r.input.lookups.latest := by
    rw [input_moves]
    exact Input.ticket_le_of_mem_lookupsOf hearlier
  have hlater : cleared.input.lookups.latest ≤ (cleared.moves after).input.lookups.latest := by
    rw [input_moves, Input.latest_acts]
    exact Nat.le_add_right _ _
  have hlatest : (cleared.moves after).input.lookups.latest = ticket.number :=
    beq_iff_eq.mp hcurrent
  have hlt := hcleared.latest_lt
  omega

/-- Whatever moves follow a barrier, nothing is suggested until a text typed after it has been
looked up and answered. -/
theorem bare_or_fetches {settings : SuggestionSettings} {backend : String → Option Result}
    {before : List Move} {s : Step} (after : List Move) :
    let r := (start settings backend).moves before
    let cleared := r.move (.event s)
    Cleared r cleared → (cleared.moves after).input.view.Bare ∨ cleared.Fetches after := by
  intro r cleared hcleared
  induction after using List.reverseRecOn with
  | nil => exact .inl hcleared.bare
  | append_singleton ms m ih =>
      rcases ih with hbare | hfetches
      · have hinput : (cleared.moves (ms ++ [m])).input =
            (cleared.moves ms).input.acts ((cleared.moves ms).act? m).toList := by
          rw [moves_append]
          exact ((cleared.moves ms).moved m).input_eq
        by_cases hlist : ∃ ticket text suggestions,
            (cleared.moves ms).act? m = some (.deliver ticket text (.ok suggestions)) ∧
            (cleared.moves ms).input.lookups.isCurrent ticket = true
        · obtain ⟨ticket, text, suggestions, hact, hcurrent⟩ := hlist
          have hmem := mem_lookupsOf_of_current hcleared hact hcurrent
          have hbegins := begins_of_mem_lookupsOf hcleared.waiting hmem
          exact .inr ⟨ms, m, [], ⟨ticket, text⟩, suggestions, rfl, hbegins, hact, hcurrent⟩
        · left
          rw [hinput]
          cases hact : (cleared.moves ms).act? m with
          | none => exact hbare
          | some a =>
              refine Input.bare_act hbare fun ticket text suggestions ha => ?_
              refine Bool.eq_false_iff.mpr fun hcurrent => hlist ?_
              exact ⟨ticket, text, suggestions, ha ▸ hact, hcurrent⟩
      · exact .inr (hfetches.append [m])

/-- A barrier leaves no text on its way to the backend. -/
theorem Resting.proceeds_of_clears (h : r.Resting) {s : Step} (hs : s.clears = true)
    (hlive : r.live = true) :
    Proceeds 0 [] [] r (r.step s) ∧ (r.step s).live = true := by
  cases s with
  | choose text =>
      have hnext : r.step (.choose text) = r.choose text := if_pos hlive
      rw [hnext]
      exact ⟨h.choose text, (r.choose_eq text).2.2.trans hlive⟩
  | submit =>
      have hnext : r.step .submit = r.submit := if_pos hlive
      rw [hnext]
      exact ⟨h.submit, r.submit_eq.2.2.trans hlive⟩
  | edit text =>
      have hnext : r.step (.edit text) = r.edit text := if_pos hlive
      have hlooksUp : ¬r.input.looksUp text = true := by
        have hblank : Text.blank text = true := hs
        simp [Input.looksUp, hblank]
      have hedit := h.edit hlive text
      rw [if_neg hlooksUp] at hedit
      rw [hnext]
      exact ⟨hedit, (r.edit_eq text).2.2.1.trans hlive⟩
  | _ => cases hs

/-- The texts that reach the backend after a barrier are those that are typed after it and then left
alone for the quiet period. -/
theorem Resting.texts_after_clears (h : r.Resting) {s : Step} (hs : s.clears = true)
    (hlive : r.live = true) (ms : List Moment) :
    ((r.step s).moments ms).calls.map Call.text =
      r.calls.map Call.text ++ textsAtRest r.input.settings ms := by
  obtain ⟨hproceeds, hlive'⟩ := h.proceeds_of_clears hs hlive
  have htexts := (hproceeds.resting.texts_moments ms).2
  rw [htexts, hproceeds.texts_eq, List.append_nil, toCome, hproceeds.asking_eq, hlive', if_pos rfl,
    hproceeds.settings_eq]
  rfl

/-- After a submission, a choice or a blank text nothing is suggested until a text that is typed
later has been looked up and answered by a list, whatever tasks are done, whatever replies come and
in whatever order. Every lookup that begins later is for a text that is typed later, and so is every
text that reaches the backend. -/
theorem bare_until_fetched (settings : SuggestionSettings) (backend : String → Option Result)
    (s : Step) (hs : s.clears = true) :
    let first := start settings backend
    (∀ before after : List Move,
      let r := first.moves before
      let cleared := r.move (.event s)
      r.live = true →
        ((cleared.moves after).input.view.Bare ∨ cleared.Fetches after) ∧
        ∀ l ∈ cleared.input.lookupsOf (cleared.actsOf after), cleared.Begins after l) ∧
    ∀ before after : List Moment,
      let r := first.moments before
      let cleared := r.step s
      let last := cleared.moments after
      r.live = true →
        (last.input.view.Bare ∨ cleared.Fetches (cleared.movesOver after)) ∧
        last = cleared.moves (cleared.movesOver after) ∧
        last.calls.map Call.text = r.calls.map Call.text ++ textsAtRest settings after := by
  intro first
  have htimed : first.Timed := timed_start settings backend
  have hmoves : ∀ before after : List Move, (first.moves before).live = true →
      let cleared := (first.moves before).move (.event s)
      ((cleared.moves after).input.view.Bare ∨ cleared.Fetches after) ∧
      ∀ l ∈ cleared.input.lookupsOf (cleared.actsOf after), cleared.Begins after l := by
    intro before after hlive cleared
    have hcleared : Cleared (first.moves before) cleared :=
      (htimed.moves before).cleared hs hlive
    exact ⟨bare_or_fetches after hcleared,
      fun l hl => begins_of_mem_lookupsOf hcleared.waiting hl⟩
  refine ⟨hmoves, ?_⟩
  intro before after r cleared last hlive
  have hr : r = first.moves (first.movesOver before) := htimed.moments_eq before
  have hcleared : cleared = r.move (.event s) := by cases s <;> first | rfl | cases hs
  have hrtimed : r.Timed := hr ▸ htimed.moves _
  have hlast : last = cleared.moves (cleared.movesOver after) :=
    Timed.moments_eq (hrtimed.moment (.event s)) after
  refine ⟨?_, hlast, ?_⟩
  · have hbare := (hmoves (first.movesOver before) (cleared.movesOver after) (hr ▸ hlive)).1
    rw [← hr, ← hcleared, ← hlast] at hbare
    exact hbare
  · have hresting : r.Resting := ((resting_start settings backend).texts_moments before).1
    have hsettings : r.input.settings = settings := by
      rw [hr, input_moves, Input.settings_acts]
      rfl
    have htexts := hresting.texts_after_clears hs hlive after
    rw [hsettings] at htexts
    exact htexts

/-- A lookup is out and another text waits when the draft is submitted. The late reply comes after a
focus, and there is still nothing to show. -/
theorem bare_until_fetched_submit :
    let r := (start {} fun _ => none).moves
      [.event (.edit "a"), .task 0, .task 1, .event (.edit "ab")]
    let cleared := r.move (.event .submit)
    let after : List Move := [.event .focus, .event (.resolve 0 (.ok ["apple"])), .task 3, .task 2]
    r.live = true ∧ r.openLookups = [⟨⟨1⟩, "a"⟩] ∧ (r.agenda.task? 2).isSome = true ∧
      (cleared.moves after).input.metrics.staleSuggestions = 1 ∧
      (cleared.moves after).input.view.Bare := by
  intro r cleared after
  have hlive : r.live = true := by decide +kernel
  have hbare := ((bare_until_fetched {} (fun _ => none) .submit rfl).1 _ after hlive).1
  refine ⟨hlive, by decide +kernel, by decide +kernel, by decide +kernel, ?_⟩
  refine hbare.resolve_right fun hfetches => ?_
  obtain ⟨text, hedit⟩ := hfetches.exists_edit
  simp [after] at hedit

end Run

end Storefront.Suggestion
