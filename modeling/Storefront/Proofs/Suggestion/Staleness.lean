import Storefront.Proofs.Suggestion.Lookups

/-! # Replies that come too late

A reply counts exactly if nothing has superseded its lookup since this was begun. Whatever the order
of the replies, the list that is shown is then the one of the last reply that counted. -/

namespace Storefront.Suggestion

namespace Input

variable {i : Input}

/-- What a reply that counts does: its list is shown for its text, and after an error there is no
list. -/
structure Takes (before after : Input) (text : String) (result : Result) : Prop where
  of_ok : ∀ suggestions, result = .ok suggestions →
    after.view.suggestions = suggestions ∧ after.view.suggestionsFor = text ∧
      after.metrics.suggestionFailures = before.metrics.suggestionFailures
  of_error : ∀ e, result = .error e →
    after.view.suggestions = [] ∧ after.view.suggestionsFor = "" ∧ after.view.visible = false ∧
      after.metrics.suggestionFailures = before.metrics.suggestionFailures + 1
  staleSuggestions_eq : after.metrics.staleSuggestions = before.metrics.staleSuggestions

/-- What a reply that does not count does: it is counted as stale, and nothing else is changed. -/
structure Discards (before after : Input) : Prop where
  view_eq : after.view = before.view
  panel_eq : after.panel = before.panel
  published_eq : after.published = before.published
  staleSuggestions_eq : after.metrics.staleSuggestions = before.metrics.staleSuggestions + 1
  suggestionFailures_eq : after.metrics.suggestionFailures = before.metrics.suggestionFailures

theorem takes_deliver {ticket : Ticket} (hcurrent : i.lookups.isCurrent ticket = true)
    (text : String) (result : Result) : Takes i (i.deliver ticket text result) text result := by
  cases result with
  | ok suggestions =>
      rw [deliver_ok_of_current hcurrent]
      constructor
      · intro shown hshown
        obtain rfl := Except.ok.inj hshown
        simp
      · intro e he
        cases he
      · simp
  | error e =>
      rw [deliver_error_of_current hcurrent]
      constructor
      · intro shown hshown
        cases hshown
      · intro _ _
        rw [display_view, display_metrics]
        exact ⟨rfl, rfl, rfl, rfl⟩
      · rw [display_metrics]
        rfl

theorem Mirrors.discards_deliver (h : i.Mirrors) {ticket : Ticket}
    (hstale : i.lookups.isCurrent ticket = false)
    (text : String) (result : Result) : Discards i (i.deliver ticket text result) := by
  rw [h.deliver_of_stale hstale]
  exact ⟨rfl, rfl, rfl, rfl, rfl⟩

end Input

namespace Run

variable {r : Run}

/-- In a run from the start every reply is to a lookup that was begun, and no lookup is answered
twice. -/
theorem replies_of_lookups (settings : SuggestionSettings) (backend : String → Option Result)
    (ms : List Move) :
    let first := start settings backend
    let answered := (first.input.repliesOf (first.actsOf ms)).map Reply.lookup
    (∀ l ∈ answered, l ∈ first.input.lookupsOf (first.actsOf ms)) ∧
      (answered.map fun l => l.ticket.number).Nodup := by
  intro first answered
  have hperm : (first.input.lookupsOf (first.actsOf ms)).Perm
      ((first.moves ms).openLookups ++ answered) :=
    (timed_start settings backend).lookups_perm ms
  refine ⟨fun l hl => hperm.mem_iff.mpr (List.mem_append_right _ hl), ?_⟩
  have hissued : ((first.input.lookupsOf (first.actsOf ms)).map fun l => l.ticket.number).Nodup :=
    (Input.lookupsOf_increasing first.input (first.actsOf ms)).1.imp Nat.ne_of_lt
  have hall := (hperm.map fun l => l.ticket.number).nodup_iff.mp hissued
  rw [List.map_append] at hall
  exact (List.nodup_append.mp hall).2.1

/-- Each lookup is answered at most once, so the tickets of the replies that count increase
strictly. -/
theorem acceptedTickets_increasing (settings : SuggestionSettings)
    (backend : String → Option Result) (ms : List Move) :
    let first := start settings backend
    (Input.acceptedTickets (first.input.repliesOf (first.actsOf ms))).Pairwise (· < ·) := by
  intro first
  have hnodup := (replies_of_lookups settings backend ms).2
  have haccepted : (Input.acceptedTickets (first.input.repliesOf (first.actsOf ms))).Nodup := by
    rw [List.map_map] at hnodup
    exact hnodup.sublist (List.filter_sublist.map _)
  exact (Input.acceptedTickets_monotone first.input _).1.imp₂
    (fun _ _ => Nat.lt_of_le_of_ne) haccepted

/-- The lookup that a move brings the reply to was begun before. -/
theorem lookup_mem_of_act? (settings : SuggestionSettings) (backend : String → Option Result)
    (ms : List Move) {m : Move} {ticket : Ticket} {text : String} {result : Result}
    (h : ((start settings backend).moves ms).act? m = some (.deliver ticket text result)) :
    ⟨ticket, text⟩ ∈ (start settings backend).input.lookupsOf
      ((start settings backend).actsOf ms) := by
  have hmem := (replies_of_lookups settings backend (ms ++ [m])).1 ⟨ticket, text⟩
  rw [actsOf_append, actsOf, h, Input.repliesOf_append, Input.lookupsOf_append,
    List.map_append] at hmem
  have hbegun := hmem (List.mem_append_right _ List.mem_cons_self)
  exact (List.mem_append.mp hbegun).resolve_right List.not_mem_nil

theorem input_move_of_act? {m : Move} {ticket : Ticket} {text : String} {result : Result}
    (h : r.act? m = some (.deliver ticket text result)) :
    (r.move m).input = r.input.deliver ticket text result := by
  rw [(r.moved m).input_eq, h]
  rfl

/-- A reply counts exactly if no other lookup, no blank text, submission or choice and no closing
came between its lookup and itself. The tickets of the replies that count increase, and what is
suggested is the list of the last of them or nothing. A run of events is a run of moves. -/
theorem reply_accepted_iff_not_superseded (settings : SuggestionSettings)
    (backend : String → Option Result) (ms : List Move) :
    let first := start settings backend
    let r := first.moves ms
    let acts := first.actsOf ms
    let replies := first.input.repliesOf acts
    (∀ m ticket text result, r.act? m = some (.deliver ticket text result) →
      let after := (r.move m).input
      let accepted := r.input.lookups.isCurrent ticket
      (∃ earlier between, acts = earlier ++ .lookUp text :: between ∧
        (first.input.acts earlier).issue.1 = ticket ∧
        (accepted = true ↔ ∀ a ∈ between, a.supersedes = false)) ∧
      (accepted = true → r.input.Takes after text result) ∧
      (accepted = false → r.input.Discards after)) ∧
    (Input.acceptedTickets replies).Pairwise (· < ·) ∧
    (r.input.view.suggestions = [] ∨ ∃ reply,
      (replies.filter Reply.accepted).getLast? = some reply ∧
      reply.result = .ok r.input.view.suggestions ∧
      r.input.view.suggestionsFor = reply.lookup.text) ∧
    ∀ ss, ∃ ns, first.steps ss = first.moves ns := by
  intro first r acts replies
  have hinput : r.input = first.input.acts acts := first.input_moves ms
  have hmirrors : r.input.Mirrors := hinput ▸ (Input.mirrors_start settings).acts acts
  have hshows : r.input.Shows replies :=
    hinput ▸ Input.Shows.acts (.inl rfl : first.input.Shows []) acts
  refine ⟨?_, acceptedTickets_increasing settings backend ms, hshows,
    fun ss => (timed_start settings backend).steps_eq_moves ss⟩
  intro m ticket text result hact after accepted
  have hafter : after = r.input.deliver ticket text result := input_move_of_act? hact
  rw [hafter]
  refine ⟨?_, fun h => Input.takes_deliver h text result,
    fun h => hmirrors.discards_deliver h text result⟩
  obtain ⟨earlier, between, hacts, hticket⟩ :=
    Input.exists_lookUp_of_mem (lookup_mem_of_act? settings backend ms hact)
  have hcurrent := (first.input.acts earlier).isCurrent_issue_iff text between
  rw [hticket, ← Input.acts_cons, ← Input.acts_append, ← hacts, ← hinput] at hcurrent
  exact ⟨earlier, between, hacts, hticket, hcurrent⟩

/-- Of two lookups the earlier one is answered last, and its reply does not count. -/
theorem reply_accepted_iff_not_superseded_out_of_order :
    let r := (start {} fun _ => none).moves
      [.event (.edit "a"), .task 0, .task 1, .event (.edit "ab"), .task 2, .task 3,
        .event (.resolve 1 (.ok ["abacus"])), .task 4, .event (.resolve 0 (.ok ["apple"]))]
    r.act? (.task 5) = some (.deliver ⟨1⟩ "a" (.ok ["apple"])) ∧
      r.input.view.suggestions = ["abacus"] ∧
      r.input.Discards (r.move (.task 5)).input := by
  intro r
  have hact : r.act? (.task 5) = some (.deliver ⟨1⟩ "a" (.ok ["apple"])) := by decide +kernel
  refine ⟨hact, by decide +kernel, ?_⟩
  exact ((reply_accepted_iff_not_superseded {} (fun _ => none) _).1 _ _ _ _ hact).2.2
    (by decide +kernel)

end Run

end Storefront.Suggestion
