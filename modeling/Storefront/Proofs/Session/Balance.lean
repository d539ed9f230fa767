import Storefront.Proofs.Session.Settling

/-! # Where the requests of a session end up

A revision for which the backend is asked makes one request. It is committed as a success or as a
failure, or is superseded before that, or is still awaited, and the counters tell which. -/

namespace Storefront

/-- The counters that belong to suggestions are the same. -/
structure Metrics.SameSuggestions (m n : Metrics) : Prop where
  suggestionRequests_eq : n.suggestionRequests = m.suggestionRequests
  suggestionFailures_eq : n.suggestionFailures = m.suggestionFailures
  staleSuggestions_eq : n.staleSuggestions = m.staleSuggestions

namespace Outcome

def isSuccess : Outcome → Bool
  | success _ => true
  | _ => false

def isFailure : Outcome → Bool
  | failure _ => true
  | _ => false

end Outcome

namespace SessionSettings

variable {settings : SessionSettings}

/-- Whether the backend is asked for the search that is shown. -/
def asks (settings : SessionSettings) (s : Snapshot) : Bool :=
  decide (settings.Asks s.state)

/-- Whether the samples are what the search that is shown finds. -/
def samples (settings : SessionSettings) (s : Snapshot) : Bool :=
  decide (s.state.query ≠ "" ∧ settings.sampleQuery = some s.state.query)

theorem asks_congr {s t : Snapshot} (h : t.state.query = s.state.query) :
    settings.asks t = settings.asks s :=
  decide_eq_decide.mpr (by rw [Asks, Asks, h])

theorem samples_congr {s t : Snapshot} (h : t.state.query = s.state.query) :
    settings.samples t = settings.samples s :=
  decide_eq_decide.mpr (by rw [h])

/-- Where the backend is not asked the outcome is a success, and where it is there is one or it is
awaited. -/
def Fits (settings : SessionSettings) (s : Snapshot) : Prop :=
  if settings.asks s then s.outcome ≠ .idle else s.outcome.isSuccess = true

/-- Each revision for which the backend is asked succeeds, fails or is awaited. -/
theorem countP_asks {shown : List Snapshot} (h : ∀ s ∈ shown, settings.Fits s) :
    shown.countP settings.asks =
      shown.countP (fun s => settings.asks s && s.outcome.isSuccess) +
        shown.countP (fun s => s.outcome.isFailure) +
          shown.countP (fun s => s.outcome.isLoading) := by
  induction shown with
  | nil => rfl
  | cons s shown ih =>
      obtain ⟨hfits, hrest⟩ := List.forall_mem_cons.mp h
      have hone : (if settings.asks s then 1 else 0) =
          (if settings.asks s && s.outcome.isSuccess then 1 else 0) +
            (if s.outcome.isFailure then 1 else 0) +
              (if s.outcome.isLoading then 1 else 0) := by
        rw [Fits] at hfits
        cases hasks : settings.asks s <;> rw [hasks] at hfits <;> cases houtcome : s.outcome <;>
          simp_all [Outcome.isSuccess, Outcome.isFailure, Outcome.isLoading]
      have hsum := ih hrest
      rw [List.countP_cons, List.countP_cons, List.countP_cons, List.countP_cons]
      omega

/-- What a revision counts when it begins. -/
theorem count_eq (settings : SessionSettings) (m : Metrics) (s : Snapshot) :
    (settings.count m s.state).searchRequests =
        m.searchRequests + (if settings.asks s then 1 else 0) ∧
      (settings.count m s.state).sampleHits =
        m.sampleHits + (if settings.samples s then 1 else 0) ∧
      (settings.count m s.state).searchFailures = m.searchFailures := by
  rcases settings.empty_or_sample_or_asks s.state with h | h | h
  · have hasks : settings.asks s = false := decide_eq_false fun hasks => hasks.1 h
    have hsamples : settings.samples s = false := decide_eq_false fun hsamples => hsamples.1 h
    rw [count, if_pos h, hasks, hsamples]
    exact ⟨rfl, rfl, rfl⟩
  · have hasks : settings.asks s = false := decide_eq_false fun hasks => hasks.2 h.2
    have hsamples : settings.samples s = true := decide_eq_true h
    rw [count, if_neg h.1, if_pos h.2, hasks, hsamples]
    exact ⟨rfl, rfl, rfl⟩
  · have hasks : settings.asks s = true := decide_eq_true h
    have hsamples : settings.samples s = false := decide_eq_false fun hsamples => h.2 hsamples.2
    rw [count, if_neg h.1, if_neg h.2, hasks, hsamples]
    exact ⟨rfl, rfl, rfl⟩

theorem isFailure_opening (settings : SessionSettings) (state : SearchState) :
    (settings.opening state).isFailure = false := by
  rw [opening]
  split
  · rfl
  · split <;> rfl

end SessionSettings

namespace SessionRun

/-- The same run with other counters. -/
def withMetrics (r : SessionRun) (metrics : Metrics) : SessionRun :=
  { r with session := { r.session with metrics } }

/-- What was shown last of the revision that an event puts an end to, if it does. -/
def closed (r next : SessionRun) : List Snapshot :=
  if next.session.snapshot.revision = r.session.snapshot.revision then [] else [r.session.snapshot]

/-- The counters tell what became of the revisions: of those before, what was shown last, and of the
one that is shown, what is shown. -/
structure Balanced (settings : SessionSettings) (r : SessionRun) (past : List Snapshot) :
    Prop where
  valid : Valid settings r
  numbers_eq : past.map Snapshot.revision = List.range' 1 past.length
  revision_eq : r.session.snapshot.revision = past.length + 1
  fits : ∀ s ∈ past, settings.Fits s
  requests_eq : r.session.metrics.searchRequests =
    (past ++ [r.session.snapshot]).countP settings.asks
  failures_eq : r.session.metrics.searchFailures =
    (past ++ [r.session.snapshot]).countP fun s => s.outcome.isFailure
  hits_eq : r.session.metrics.sampleHits =
    (past ++ [r.session.snapshot]).countP settings.samples

variable {backend : SearchRequest → Option SearchResult} {settings : SessionSettings}
variable {r next : SessionRun} {past : List Snapshot}

theorem countP_concat (p : Snapshot → Bool) (past : List Snapshot) (s : Snapshot) :
    (past ++ [s]).countP p = past.countP p + if p s then 1 else 0 := by
  rw [List.countP_append, List.countP_singleton]

theorem Valid.fits (h : Valid settings r) : settings.Fits r.session.snapshot := by
  rw [SessionSettings.Fits]
  split
  · exact h.outcome_ne_idle
  · rename_i hasks
    have hnot : ¬settings.Asks r.session.snapshot.state := by
      simpa [SessionSettings.asks] using hasks
    cases h.phase with
    | empty query_eq outcome_eq idle => simp [outcome_eq, Outcome.isSuccess]
    | sample query_eq outcome_eq idle => simp [outcome_eq, Outcome.isSuccess]
    | queued asks seeks outcome_eq inFlight_eq fresh => exact absurd asks hnot
    | waiting asks seeks outcome_eq inFlight_eq called => exact absurd asks hnot
    | answered asks seeks outcome_eq inFlight_eq called => exact absurd asks hnot
    | settled asks seeks outcome_eq idle called => exact absurd asks hnot

/-- The counters of suggestions may change. -/
theorem Balanced.withMetrics (h : Balanced settings r past) {metrics : Metrics}
    (hrequests : metrics.searchRequests = r.session.metrics.searchRequests)
    (hfailures : metrics.searchFailures = r.session.metrics.searchFailures)
    (hhits : metrics.sampleHits = r.session.metrics.sampleHits) :
    Balanced settings (r.withMetrics metrics) past := by
  have hvalid : Valid settings (r.withMetrics metrics) :=
    ⟨h.valid.settings_eq, h.valid.state_eq, h.valid.revision_eq, h.valid.called_lt,
      h.valid.called_le, h.valid.phase⟩
  exact ⟨hvalid, h.numbers_eq, h.revision_eq, h.fits, hrequests.trans h.requests_eq,
    hfailures.trans h.failures_eq, hhits.trans h.hits_eq⟩

/-- The first revision of a session is its own balance. -/
theorem balanced_of_begins {t : Session} {state : SearchState} {s : Session}
    (hvalid : Valid settings (start backend t)) (hbegins : s.Begins state t)
    (hlatest : s.revisions.latest = 0) (houtcome : t.snapshot.outcome = settings.opening state)
    (hmetrics : t.metrics = settings.count Metrics.zero state) :
    Balanced settings (start backend t) [] := by
  obtain ⟨hrequests, hhits, hfailures⟩ := settings.count_eq Metrics.zero t.snapshot
  rw [hbegins.state_eq, ← hmetrics] at hrequests hhits hfailures
  have hopening : t.snapshot.outcome.isFailure = false := by
    rw [houtcome]
    exact settings.isFailure_opening state
  have hrevision : t.snapshot.revision = 0 + 1 := by rw [hbegins.revision_eq, hlatest]
  refine ⟨hvalid, rfl, hrevision, nofun, ?_, ?_, ?_⟩
  · rw [countP_concat]
    exact hrequests
  · rw [countP_concat]
    change t.metrics.searchFailures = 0 + if t.snapshot.outcome.isFailure then 1 else 0
    rw [hopening]
    exact hfailures
  · rw [countP_concat]
    exact hhits

theorem balanced_start (backend : SearchRequest → Option SearchResult)
    (settings : SessionSettings) (l : Location) :
    Balanced settings (start backend (Session.atLocation settings l)) [] := by
  have hvalid := valid_start backend settings l
  rw [Session.atLocation_eq] at hvalid ⊢
  exact balanced_of_begins hvalid (Session.begins_beginRevision _ _) rfl
    (Session.outcome_beginRevision _ _) (Session.metrics_beginRevision _ _)

/-! ## One event -/

/-- What an event can do to what is shown and to the counters keeps the balance. -/
theorem Balanced.turn (h : Balanced settings r past) (hturn : Turn settings r next)
    (hvalid : Valid settings next) : Balanced settings next (past ++ closed r next) := by
  have hrequests := h.requests_eq
  have hfailures := h.failures_eq
  have hhits := h.hits_eq
  rw [countP_concat] at hrequests hfailures hhits
  cases hturn with
  | stays query_eq revision_eq outcome_eq metrics_eq =>
      have hclosed : closed r next = [] := if_pos revision_eq
      rw [hclosed, List.append_nil]
      refine ⟨hvalid, h.numbers_eq, revision_eq.trans h.revision_eq, h.fits, ?_, ?_, ?_⟩
      · rw [metrics_eq, countP_concat, SessionSettings.asks_congr query_eq]
        exact hrequests
      · rw [metrics_eq, countP_concat, outcome_eq]
        exact hfailures
      · rw [metrics_eq, countP_concat, SessionSettings.samples_congr query_eq]
        exact hhits
  | begins revision_eq outcome_eq metrics_eq =>
      have hclosed : closed r next = [r.session.snapshot] := by
        rw [closed, revision_eq, if_neg (Nat.succ_ne_self _)]
      obtain ⟨hasked, hsampled, hfailed⟩ :=
        settings.count_eq r.session.metrics next.session.snapshot
      have hopening : next.session.snapshot.outcome.isFailure = false := by
        rw [outcome_eq]
        exact settings.isFailure_opening _
      rw [hclosed]
      refine ⟨hvalid, ?_, ?_, ?_, ?_, ?_, ?_⟩
      · rw [List.map_append, h.numbers_eq, List.map_singleton, h.revision_eq, List.length_append,
          List.length_singleton, List.range'_1_concat, Nat.add_comm 1]
      · rw [revision_eq, h.revision_eq, List.length_append, List.length_singleton]
      · intro s hs
        rcases List.mem_append.mp hs with hs | hs
        · exact h.fits s hs
        · rw [List.mem_singleton.mp hs]
          exact h.valid.fits
      · rw [metrics_eq, hasked, countP_concat, h.requests_eq]
      · rw [metrics_eq, hfailed, countP_concat, hopening, h.failures_eq]
        rfl
      · rw [metrics_eq, hsampled, countP_concat, h.hits_eq]
  | settles result awaited snapshot_eq metrics_eq =>
      have hclosed : closed r next = [] := if_pos (congrArg Snapshot.revision snapshot_eq)
      have hquery : next.session.snapshot.state.query = r.session.snapshot.state.query :=
        congrArg (fun s => s.state.query) snapshot_eq
      have hanswer : (r.session.metrics.answer result).searchRequests =
            r.session.metrics.searchRequests ∧
          (r.session.metrics.answer result).sampleHits = r.session.metrics.sampleHits ∧
          (r.session.metrics.answer result).searchFailures = r.session.metrics.searchFailures +
            if (Outcome.ofResult result).isFailure then 1 else 0 := by
        cases result <;> exact ⟨rfl, rfl, rfl⟩
      rw [awaited] at hfailures
      rw [hclosed, List.append_nil]
      refine ⟨hvalid, h.numbers_eq, ?_, h.fits, ?_, ?_, ?_⟩
      · rw [snapshot_eq]
        exact h.revision_eq
      · rw [metrics_eq, hanswer.1, countP_concat, SessionSettings.asks_congr hquery]
        exact hrequests
      · rw [metrics_eq, hanswer.2.2, countP_concat, hfailures, snapshot_eq]
        rfl
      · rw [metrics_eq, hanswer.2.1, countP_concat, SessionSettings.samples_congr hquery]
        exact hhits

/-- No event counts anything that belongs to suggestions. -/
theorem Turn.sameSuggestions (h : Turn settings r next) :
    r.session.metrics.SameSuggestions next.session.metrics := by
  cases h with
  | stays query_eq revision_eq outcome_eq metrics_eq =>
      rw [metrics_eq]
      exact ⟨rfl, rfl, rfl⟩
  | begins revision_eq outcome_eq metrics_eq =>
      rw [metrics_eq, SessionSettings.count]
      split
      · exact ⟨rfl, rfl, rfl⟩
      · split <;> exact ⟨rfl, rfl, rfl⟩
  | settles result awaited snapshot_eq metrics_eq =>
      rw [metrics_eq]
      cases result <;> exact ⟨rfl, rfl, rfl⟩

/-- Every request is accounted for once. -/
theorem Balanced.requests_balance (h : Balanced settings r past) :
    r.session.metrics.searchRequests =
      (past ++ [r.session.snapshot]).countP
          (fun s => settings.asks s && s.outcome.isSuccess) +
        r.session.metrics.searchFailures + past.countP (fun s => s.outcome.isLoading) +
        if r.session.snapshot.outcome = .loading then 1 else 0 := by
  have hfits : ∀ s ∈ past ++ [r.session.snapshot], settings.Fits s := by
    intro s hs
    rcases List.mem_append.mp hs with hs | hs
    · exact h.fits s hs
    · rw [List.mem_singleton.mp hs]
      exact h.valid.fits
  have hloading : (if r.session.snapshot.outcome.isLoading then 1 else 0) =
      if r.session.snapshot.outcome = .loading then 1 else 0 := by
    cases r.session.snapshot.outcome <;> simp [Outcome.isLoading]
  have hcount := SessionSettings.countP_asks hfits
  rw [countP_concat (fun s => s.outcome.isLoading), hloading] at hcount
  rw [h.requests_eq, h.failures_eq]
  omega

end SessionRun

end Storefront
