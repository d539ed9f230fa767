import Storefront.Proofs.Suggestion.Lookups

/-! # Where the requests for suggestions end up

Every request is a lookup. It is still open, or its list was shown, or it failed, or its reply came
too late, and the counters tell which. -/

namespace Storefront

/-- The counters that belong to searches are the same. -/
structure Metrics.SameSearches (m n : Metrics) : Prop where
  searchRequests_eq : n.searchRequests = m.searchRequests
  searchFailures_eq : n.searchFailures = m.searchFailures
  staleResults_eq : n.staleResults = m.staleResults
  sampleHits_eq : n.sampleHits = m.sampleHits

theorem Metrics.SameSearches.refl (m : Metrics) : m.SameSearches m :=
  ⟨rfl, rfl, rfl, rfl⟩

namespace Suggestion

/-- How many replies met with a verdict. -/
def verdicts (rs : List Reply) (v : Verdict) : Nat :=
  (rs.map Reply.verdict).count v

theorem verdicts_append (rs ss : List Reply) (v : Verdict) :
    verdicts (rs ++ ss) v = verdicts rs v + verdicts ss v := by
  rw [verdicts, List.map_append, List.count_append]
  rfl

/-- A reply meets with exactly one verdict. -/
theorem length_eq_verdicts (rs : List Reply) :
    rs.length = verdicts rs .shown + verdicts rs .failed + verdicts rs .stale := by
  induction rs with
  | nil => rfl
  | cons r rs ih =>
      have hcons : ∀ v, verdicts (r :: rs) v = verdicts [r] v + verdicts rs v :=
        verdicts_append [r] rs
      have hone : verdicts [r] .shown + verdicts [r] .failed + verdicts [r] .stale = 1 := by
        simp only [verdicts, List.map_cons, List.map_nil]
        cases r.verdict <;> rfl
      rw [List.length_cons, hcons, hcons, hcons]
      omega

namespace Input

variable {i : Input}

/-- No act upon the input counts anything that belongs to searches. -/
theorem sameSearches_act (i : Input) (a : Act) : i.metrics.SameSearches (i.act a).metrics := by
  rw [metrics_act]
  cases a with
  | deliver ticket text result =>
      rw [counted]
      cases Reply.verdict ⟨⟨ticket, text⟩, result, i.lookups.isCurrent ticket⟩ <;>
        exact ⟨rfl, rfl, rfl, rfl⟩
  | _ => exact ⟨rfl, rfl, rfl, rfl⟩

/-- A reply that fails or comes too late is counted as such, and nothing else is. -/
theorem verdicts_act (i : Input) (a : Act) :
    (i.act a).metrics.suggestionFailures =
        i.metrics.suggestionFailures + verdicts (i.repliesOf [a]) .failed ∧
      (i.act a).metrics.staleSuggestions =
        i.metrics.staleSuggestions + verdicts (i.repliesOf [a]) .stale := by
  rw [metrics_act]
  cases a with
  | deliver ticket text result =>
      have hreplies : i.repliesOf [.deliver ticket text result] =
          [⟨⟨ticket, text⟩, result, i.lookups.isCurrent ticket⟩] := rfl
      rw [hreplies, counted, verdicts, verdicts, List.map_singleton]
      cases Reply.verdict ⟨⟨ticket, text⟩, result, i.lookups.isCurrent ticket⟩ <;>
        exact ⟨rfl, rfl⟩
  | _ => exact ⟨rfl, rfl⟩

end Input

namespace Run

/-- The same run with other counters. -/
def withMetrics (r : Run) (metrics : Metrics) : Run :=
  { r with input := { r.input with metrics } }

/-- The counters tell what became of the lookups that were begun, each of which is open or was
answered once. -/
structure Balanced (r : Run) (lookups : List Lookup) (replies : List Reply) : Prop where
  timed : r.Timed
  lookups_perm : lookups.Perm (r.openLookups ++ replies.map Reply.lookup)
  tickets_lt : (lookups.map fun l => l.ticket.number).Pairwise (· < ·)
  tickets_le : ∀ l ∈ lookups, l.ticket.number ≤ r.input.lookups.latest
  requests_eq : r.input.metrics.suggestionRequests = lookups.length
  failures_eq : r.input.metrics.suggestionFailures = verdicts replies .failed
  stale_eq : r.input.metrics.staleSuggestions = verdicts replies .stale

variable {r next : Run} {a? : Option Act} {lookups : List Lookup} {replies : List Reply}

theorem balanced_start (settings : SuggestionSettings) (backend : String → Option Result) :
    (start settings backend).Balanced [] [] :=
  ⟨timed_start settings backend, List.Perm.refl _, List.Pairwise.nil, nofun, rfl, rfl, rfl⟩

/-- The counters of searches may change. -/
theorem Balanced.withMetrics (h : r.Balanced lookups replies) {metrics : Metrics}
    (hrequests : metrics.suggestionRequests = r.input.metrics.suggestionRequests)
    (hfailures : metrics.suggestionFailures = r.input.metrics.suggestionFailures)
    (hstale : metrics.staleSuggestions = r.input.metrics.staleSuggestions) :
    (r.withMetrics metrics).Balanced lookups replies :=
  ⟨h.timed, h.lookups_perm, h.tickets_lt, h.tickets_le, hrequests.trans h.requests_eq,
    hfailures.trans h.failures_eq, hstale.trans h.stale_eq⟩

/-- A lookup that is begun is one more that is open, and one that is answered is one less. -/
theorem Moved.balanced (hmoved : Moved r a? next) (h : r.Balanced lookups replies) :
    next.Balanced (lookups ++ r.input.lookupsOf a?.toList)
      (replies ++ r.input.repliesOf a?.toList) := by
  obtain ⟨hlt, hnew⟩ := r.input.lookupsOf_increasing a?.toList
  have hinput := hmoved.input_eq
  have hperm : (lookups ++ r.input.lookupsOf a?.toList).Perm
      (next.openLookups ++ (replies ++ r.input.repliesOf a?.toList).map Reply.lookup) := by
    have hbefore : ([] ++ lookups).Perm (r.openLookups ++ replies.map Reply.lookup) :=
      h.lookups_perm
    rw [List.map_append]
    exact perm_append_trans hbefore (hmoved.openLookups_perm h.timed)
  have htickets : ((lookups ++ r.input.lookupsOf a?.toList).map fun l => l.ticket.number).Pairwise
      (· < ·) := by
    rw [List.map_append]
    refine List.pairwise_append.mpr ⟨h.tickets_lt, hlt, ?_⟩
    intro m hm n hn
    obtain ⟨l, hl, rfl⟩ := List.mem_map.mp hm
    obtain ⟨k, hk, rfl⟩ := List.mem_map.mp hn
    exact Nat.lt_of_le_of_lt (h.tickets_le l hl) (hnew k hk)
  have hle : ∀ l ∈ lookups ++ r.input.lookupsOf a?.toList,
      l.ticket.number ≤ next.input.lookups.latest := by
    intro l hl
    rw [hinput]
    rcases List.mem_append.mp hl with hl | hl
    · rw [Input.latest_acts]
      exact Nat.le_add_right_of_le (h.tickets_le l hl)
    · exact Input.ticket_le_of_mem_lookupsOf hl
  refine ⟨h.timed.moved hmoved, hperm, htickets, hle, ?_, ?_, ?_⟩
  · rw [hinput, Input.requests_acts, h.requests_eq, List.length_append]
  · rw [hinput, verdicts_append, ← h.failures_eq]
    cases a? with
    | none => rfl
    | some a => exact (r.input.verdicts_act a).1
  · rw [hinput, verdicts_append, ← h.stale_eq]
    cases a? with
    | none => rfl
    | some a => exact (r.input.verdicts_act a).2

theorem Moved.sameSearches (hmoved : Moved r a? next) :
    r.input.metrics.SameSearches next.input.metrics := by
  rw [hmoved.input_eq]
  cases a? with
  | none => exact .refl _
  | some a => exact r.input.sameSearches_act a

/-- Every request is accounted for once. -/
theorem Balanced.requests_balance (h : r.Balanced lookups replies) :
    r.input.metrics.suggestionRequests =
      verdicts replies .shown + r.input.metrics.suggestionFailures +
        r.input.metrics.staleSuggestions + r.openLookups.length := by
  have hlength := h.lookups_perm.length_eq
  have hreplies := length_eq_verdicts replies
  rw [List.length_append, List.length_map] at hlength
  rw [h.requests_eq, h.failures_eq, h.stale_eq]
  omega

end Run

end Suggestion

end Storefront
