import Storefront.Proofs.Search.Canonical
import Storefront.Session.Basic

/-! # Following the history

A session that follows its history either stays with the search it shows or begins a revision. The
lemmas here say what each operation makes of the whole session, so that none of them needs to be
opened again. -/

namespace Storefront

/-- Whether the backend is asked for a search: there is one, and no samples stand in for it. -/
def SessionSettings.Asks (settings : SessionSettings) (state : SearchState) : Prop :=
  state.query ≠ "" ∧ settings.sampleQuery ≠ some state.query

instance (settings : SessionSettings) (state : SearchState) : Decidable (settings.Asks state) :=
  inferInstanceAs (Decidable (_ ∧ _))

theorem SessionSettings.empty_or_sample_or_asks (settings : SessionSettings) (state : SearchState) :
    state.query = "" ∨ (state.query ≠ "" ∧ settings.sampleQuery = some state.query) ∨
      settings.Asks state := by
  by_cases hempty : state.query = ""
  · exact .inl hempty
  by_cases hsample : settings.sampleQuery = some state.query
  · exact .inr (.inl ⟨hempty, hsample⟩)
  · exact .inr (.inr ⟨hempty, hsample⟩)

/-- What a revision shows when it begins: what is known of its search beforehand, or that the backend
is asked for it. -/
def SessionSettings.opening (settings : SessionSettings) (state : SearchState) : Outcome :=
  if state.query = "" then .success []
  else if settings.sampleQuery = some state.query then .success Product.samples
  else .loading

theorem SessionSettings.opening_of_asks {settings : SessionSettings} {state : SearchState}
    (h : settings.Asks state) : settings.opening state = .loading := by
  rw [opening, if_neg h.1, if_neg h.2]

namespace Session

/-! ## Beginning a revision -/

/-- The ticket of the revision that would begin next. -/
def nextTicket (s : Session) : Ticket :=
  s.revisions.issue.1

theorem beginRevision_of_empty (s : Session) {state : SearchState} (h : state.query = "") :
    s.beginRevision state =
      { s with
        revisions := s.revisions.issue.2
        inFlight := none
        published := s.published + 2
        snapshot := ⟨s.nextTicket.number, state, .success []⟩ } := by
  have hempty : state.isEmpty = true := String.isEmpty_iff.mpr h
  simp [beginRevision, hempty, commit, publish, nextTicket]

theorem beginRevision_of_sample (s : Session) {state : SearchState}
    (h : state.query ≠ "" ∧ s.settings.sampleQuery = some state.query) :
    s.beginRevision state =
      { s with
        revisions := s.revisions.issue.2
        inFlight := none
        published := s.published + 2
        metrics := s.metrics.record .sampleHit
        snapshot := ⟨s.nextTicket.number, state, .success Product.samples⟩ } := by
  have hempty : state.isEmpty = false := by simpa [SearchState.isEmpty] using h.1
  simp [beginRevision, hempty, h.2, commit, publish, record, nextTicket]

theorem beginRevision_of_asks (s : Session) {state : SearchState} (h : s.settings.Asks state) :
    s.beginRevision state =
      { s with
        revisions := s.revisions.issue.2
        inFlight := some ⟨s.nextTicket, SearchRequest.ofState state, .queued⟩
        published := s.published + 1
        metrics := s.metrics.record .searchRequest
        snapshot := ⟨s.nextTicket.number, state, .loading⟩ } := by
  have hempty : state.isEmpty = false := by simpa [SearchState.isEmpty] using h.1
  simp [beginRevision, hempty, h.2, publish, record, nextTicket]

/-- What a revision does to the session when it begins, whatever is known of its search. -/
structure Begins (s : Session) (state : SearchState) (t : Session) : Prop where
  settings_eq : t.settings = s.settings
  history_eq : t.history = s.history
  latest_eq : t.revisions.latest = s.revisions.latest + 1
  revision_eq : t.snapshot.revision = s.revisions.latest + 1
  state_eq : t.snapshot.state = state
  published_lt : s.published < t.published
  inFlight_eq : t.inFlight =
    if s.settings.Asks state then some ⟨s.nextTicket, SearchRequest.ofState state, .queued⟩
    else none
  searchRequests_eq : t.metrics.searchRequests =
    s.metrics.searchRequests + if s.settings.Asks state then 1 else 0

theorem begins_beginRevision (s : Session) (state : SearchState) :
    s.Begins state (s.beginRevision state) := by
  rcases s.settings.empty_or_sample_or_asks state with h | h | h
  · have hnot : ¬ s.settings.Asks state := fun hasks => hasks.1 h
    rw [beginRevision_of_empty s h]
    exact ⟨rfl, rfl, rfl, rfl, rfl, by simp, (if_neg hnot).symm, by simp [hnot]⟩
  · have hnot : ¬ s.settings.Asks state := fun hasks => hasks.2 h.2
    rw [beginRevision_of_sample s h]
    exact ⟨rfl, rfl, rfl, rfl, rfl, by simp, (if_neg hnot).symm, by simp [hnot, Metrics.record]⟩
  · rw [beginRevision_of_asks s h]
    exact ⟨rfl, rfl, rfl, rfl, rfl, by simp, (if_pos h).symm, by simp [h, Metrics.record]⟩

theorem outcome_beginRevision (s : Session) (state : SearchState) :
    (s.beginRevision state).snapshot.outcome = s.settings.opening state := by
  rcases s.settings.empty_or_sample_or_asks state with h | h | h
  · rw [beginRevision_of_empty s h, SessionSettings.opening, if_pos h]
  · rw [beginRevision_of_sample s h, SessionSettings.opening, if_neg h.1, if_pos h.2]
  · rw [beginRevision_of_asks s h, SessionSettings.opening_of_asks h]

/-- No answer is counted when a revision begins. -/
theorem answers_beginRevision (s : Session) (state : SearchState) :
    (s.beginRevision state).metrics.staleResults = s.metrics.staleResults ∧
      (s.beginRevision state).metrics.searchFailures = s.metrics.searchFailures := by
  rcases s.settings.empty_or_sample_or_asks state with h | h | h
  · rw [beginRevision_of_empty s h]
    exact ⟨rfl, rfl⟩
  · rw [beginRevision_of_sample s h]
    exact ⟨rfl, rfl⟩
  · rw [beginRevision_of_asks s h]
    exact ⟨rfl, rfl⟩

/-- A session that shows nothing yet. -/
def unbegun (settings : SessionSettings) (l : Location) : Session :=
  { settings, history := History.start l, revisions := Generation.start
    snapshot := { revision := 0, state := ⟨"", CategorySet.empty⟩, outcome := .idle }
    published := 0, metrics := Metrics.zero, inFlight := none }

theorem atLocation_eq (settings : SessionSettings) (l : Location) :
    atLocation settings l = (unbegun settings l).beginRevision (unbegun settings l).located :=
  rfl

/-! ## Following -/

/-- Goes to the current location of a history. -/
def visit (s : Session) (history : History) : Session :=
  { s with history }.follow

/-- A visit shows what is shown already, shows the same search in another order, or begins a
revision for another search. -/
theorem visit_cases (s : Session) (history : History) :
    (s.snapshot.state = SearchState.ofLocation history.current ∧
      s.visit history = { s with history }) ∨
    ((s.snapshot.state.query = (SearchState.ofLocation history.current).query ∧
        s.snapshot.state.categories.labels.Perm
          (SearchState.ofLocation history.current).categories.labels ∧
        s.snapshot.state.categories.labels ≠
          (SearchState.ofLocation history.current).categories.labels) ∧
      s.visit history =
        { s with
          history
          published := s.published + 1
          snapshot := { s.snapshot with state := SearchState.ofLocation history.current } }) ∨
    (s.snapshot.state.canonical ≠ (SearchState.ofLocation history.current).canonical ∧
      s.visit history = { s with history }.beginRevision
        (SearchState.ofLocation history.current)) := by
  by_cases hcanonical : s.snapshot.state.canonical =
    (SearchState.ofLocation history.current).canonical
  · obtain ⟨hquery, hperm⟩ := (SearchState.canonical_eq_canonical_iff _ _).mp hcanonical
    by_cases hlabels :
        s.snapshot.state.categories.labels =
          (SearchState.ofLocation history.current).categories.labels
    · refine .inl ⟨SearchState.eq_of_query_eq_of_labels_eq hquery hlabels, ?_⟩
      simp [visit, follow, located, hcanonical, hlabels]
    · refine .inr (.inl ⟨⟨hquery, hperm, hlabels⟩, ?_⟩)
      simp [visit, follow, located, hcanonical, hlabels, publish]
  · refine .inr (.inr ⟨hcanonical, ?_⟩)
    simp [visit, follow, located, hcanonical]

/-- The same search is not begun again, and is shown as the location has it. -/
theorem visit_of_canonical_eq (s : Session) {history : History}
    (h : s.snapshot.state.canonical = (SearchState.ofLocation history.current).canonical) :
    ∃ published, s.visit history =
      { s with
        history
        published
        snapshot := { s.snapshot with state := SearchState.ofLocation history.current } } := by
  rcases s.visit_cases history with ⟨hstate, heq⟩ | ⟨-, heq⟩ | ⟨hcanonical, -⟩
  · exact ⟨s.published, hstate ▸ heq⟩
  · exact ⟨_, heq⟩
  · exact absurd h hcanonical

theorem visit_of_canonical_ne (s : Session) {history : History}
    (h : s.snapshot.state.canonical ≠ (SearchState.ofLocation history.current).canonical) :
    s.visit history =
      { s with history }.beginRevision (SearchState.ofLocation history.current) := by
  rcases s.visit_cases history with ⟨hstate, -⟩ | ⟨⟨hquery, hperm, -⟩, -⟩ | ⟨-, heq⟩
  · exact absurd (congrArg _ hstate) h
  · exact absurd ((SearchState.canonical_eq_canonical_iff _ _).mpr ⟨hquery, hperm⟩) h
  · exact heq

@[simp] theorem visit_history (s : Session) (history : History) :
    (s.visit history).history = history := by
  rcases s.visit_cases history with ⟨-, heq⟩ | ⟨-, heq⟩ | ⟨-, heq⟩
  · rw [heq]
  · rw [heq]
  · rw [heq, (begins_beginRevision _ _).history_eq]

/-! ## Completion -/

/-- A reply in the revision that is shown becomes its outcome. -/
theorem complete_of_current (s : Session) (result : SearchResult) :
    s.complete ⟨s.snapshot.revision⟩ result =
      { s with
        inFlight := none
        published := s.published + 1
        metrics := match result with
          | .ok _ => s.metrics
          | .error _ => s.metrics.record .searchFailure
        snapshot := { s.snapshot with outcome := .ofResult result } } := by
  cases result <;> simp [complete, commit, publish, record]

/-- A reply in any other revision is counted and not shown. -/
theorem complete_of_stale (s : Session) {ticket : Ticket} (result : SearchResult)
    (h : s.snapshot.revision ≠ ticket.number) :
    s.complete ticket result =
      { s with inFlight := none, metrics := s.metrics.record .staleResults } := by
  simp [complete, record, h]

end Session

end Storefront
