import Storefront.Proofs.Session.Invariant

/-! # Revisions and requests

A revision begins exactly when the search changes, and makes at most one request, in the order of
the revisions. -/

namespace Storefront

/-- A revision: its number, and the search it began with. -/
structure Revision where
  number : Nat
  state : SearchState

namespace SessionRun

variable {settings : SessionSettings} {r : SessionRun}

/-! ## One event -/

/-- What an event leaves as it was that leads to the same search. -/
structure Stays (r next : SessionRun) : Prop where
  revision_eq : next.session.snapshot.revision = r.session.snapshot.revision
  outcome_eq : next.session.snapshot.outcome = r.session.snapshot.outcome
  inFlight_eq : next.session.inFlight = r.session.inFlight
  metrics_eq : next.session.metrics = r.session.metrics
  calls_eq : next.calls = r.calls

/-- What an event does that leads to another search: the next revision is shown, and its request
takes the place of the one in flight if the backend is asked for the search; otherwise nothing is in
flight. -/
structure Renews (settings : SessionSettings) (r next : SessionRun) : Prop where
  revision_eq : next.session.snapshot.revision = r.session.snapshot.revision + 1
  published_lt : r.session.published < next.session.published
  inFlight_eq : next.session.inFlight =
    if settings.Asks next.session.located then
      some ⟨⟨r.session.snapshot.revision + 1⟩, SearchRequest.ofState next.session.located, .queued⟩
    else none
  searchRequests_eq : next.session.metrics.searchRequests =
    r.session.metrics.searchRequests + if settings.Asks next.session.located then 1 else 0
  calls_eq : next.calls = r.calls

theorem located_visit (s : Session) (history : History) :
    (s.visit history).located = SearchState.ofLocation history.current := by
  rw [Session.located, Session.visit_history]

theorem Valid.canonical_iff (h : Valid settings r) (l : Location) :
    r.session.snapshot.state.canonical = (SearchState.ofLocation l).canonical ↔
      r.session.snapshot.state.SameSearch (SearchState.ofLocation l) := by
  refine SearchState.canonical_eq_canonical_iff_sameSearch ?_ (SearchState.nodup_ofLocation l)
  rw [h.state_eq]
  exact SearchState.nodup_ofLocation _

/-- The same search is not begun again; it is shown again if its labels have another order. -/
theorem Valid.stays_visit (h : Valid settings r) {history : History}
    (hsame : r.session.snapshot.state.SameSearch (SearchState.ofLocation history.current)) :
    Stays r { r with session := r.session.visit history } ∧
      ((r.session.visit history).published ≠ r.session.published ↔
        r.session.snapshot.state.categories.labels ≠
          (SearchState.ofLocation history.current).categories.labels) := by
  rcases r.session.visit_cases history with ⟨hstate, heq⟩ | ⟨⟨-, -, hlabels⟩, heq⟩ | ⟨hcanonical, -⟩
  · rw [heq]
    refine ⟨⟨rfl, rfl, rfl, rfl, rfl⟩, ?_⟩
    exact iff_of_false (fun hne => hne rfl)
      (fun hne => hne (congrArg (fun s => s.categories.labels) hstate))
  · rw [heq]
    exact ⟨⟨rfl, rfl, rfl, rfl, rfl⟩, iff_of_true (Nat.succ_ne_self _) hlabels⟩
  · exact absurd ((h.canonical_iff _).mpr hsame) hcanonical

theorem Valid.visit_of_other (h : Valid settings r) {history : History}
    (hother : ¬ r.session.snapshot.state.SameSearch (SearchState.ofLocation history.current)) :
    r.session.visit history =
      { r.session with history }.beginRevision (SearchState.ofLocation history.current) :=
  r.session.visit_of_canonical_ne fun hcanonical => hother ((h.canonical_iff _).mp hcanonical)

/-- Another search is a revision of its own. -/
theorem Valid.renews_visit (h : Valid settings r) {history : History}
    (hother : ¬ r.session.snapshot.state.SameSearch (SearchState.ofLocation history.current)) :
    Renews settings r { r with session := r.session.visit history } := by
  have hlocated := located_visit r.session history
  have hbegins := { r.session with history }.begins_beginRevision
    (SearchState.ofLocation history.current)
  rw [← h.visit_of_other hother] at hbegins
  have hrevision := h.revision_eq
  obtain rfl := h.settings_eq
  refine ⟨?_, hbegins.published_lt, ?_, ?_, rfl⟩
  · rw [hrevision]
    exact hbegins.revision_eq
  · rw [hlocated, hrevision]
    exact hbegins.inFlight_eq
  · rw [hlocated]
    exact hbegins.searchRequests_eq

/-! ## Whole runs -/

/-- The revision that an event begins, if it begins one. -/
def begun (r next : SessionRun) : List Revision :=
  if next.session.snapshot.revision = r.session.snapshot.revision then []
  else [⟨next.session.snapshot.revision, next.session.snapshot.state⟩]

/-- The revisions that begin in the course of events. -/
def begunBy (r : SessionRun) : List SessionStep → List Revision
  | [] => []
  | op :: ops => begun r (r.step op) ++ begunBy (r.step op) ops

/-- All revisions of a run, with the one that it starts with. -/
def revisions (r : SessionRun) (ops : List SessionStep) : List Revision :=
  ⟨r.session.snapshot.revision, r.session.snapshot.state⟩ :: r.begunBy ops

/-- The revisions whose searches the backend is asked for. -/
def asked (settings : SessionSettings) (past : List Revision) : List Revision :=
  past.filter fun v => decide (settings.Asks v.state)

theorem asked_append_singleton (settings : SessionSettings) (past : List Revision) (v : Revision) :
    asked settings (past ++ [v]) =
      asked settings past ++ if settings.Asks v.state then [v] else [] := by
  by_cases hasks : settings.Asks v.state <;> simp [asked, hasks]

/-- The number of a revision and the request for the search it began with. -/
def askedKeys (settings : SessionSettings) (past : List Revision) : List (Nat × SearchRequest) :=
  (asked settings past).map fun v => (v.number, SearchRequest.ofState v.state)

/-- The ticket number and the request of each call. -/
def callKeys (calls : List SearchCall) : List (Nat × SearchRequest) :=
  calls.map fun c => (c.ticket.number, c.request)

/-- The request that may still become a call. -/
def queuedKeys : Option InFlight → List (Nat × SearchRequest)
  | some ⟨ticket, request, .queued⟩ => [(ticket.number, request)]
  | _ => []

/-- How requests and calls come from the revisions so far. A request that is still queued has its
place behind all calls, which it keeps when it becomes one. -/
structure Accounted (settings : SessionSettings) (s : Session) (calls : List SearchCall)
    (past : List Revision) : Prop where
  latest_eq : s.revisions.latest = past.length
  numbers_eq : past.map Revision.number = List.range' 1 past.length
  requests_eq : s.metrics.searchRequests = (asked settings past).length
  calls_sublist : (callKeys calls ++ queuedKeys s.inFlight).Sublist (askedKeys settings past)

theorem Accounted.begin {s t : Session} {calls : List SearchCall} {past : List Revision}
    {state : SearchState} (h : Accounted s.settings s calls past) (hbegins : s.Begins state t) :
    Accounted s.settings t calls (past ++ [⟨s.revisions.latest + 1, state⟩]) := by
  have hcalls : (callKeys calls).Sublist (askedKeys s.settings past) :=
    (List.sublist_append_left _ _).trans h.calls_sublist
  refine ⟨?_, ?_, ?_, ?_⟩
  · rw [hbegins.latest_eq, h.latest_eq, List.length_append, List.length_singleton]
  · rw [List.map_append, h.numbers_eq, h.latest_eq, List.length_append, List.length_singleton,
      List.range'_1_concat, Nat.add_comm 1]
    rfl
  · rw [hbegins.searchRequests_eq, h.requests_eq, asked_append_singleton, List.length_append]
    by_cases hasks : s.settings.Asks state <;> simp [hasks]
  · rw [hbegins.inFlight_eq, askedKeys, asked_append_singleton, List.map_append]
    by_cases hasks : s.settings.Asks state
    · rw [if_pos hasks, if_pos hasks]
      exact hcalls.append (List.Sublist.refl _)
    · rw [if_neg hasks, if_neg hasks]
      exact hcalls.append (List.Sublist.refl _)

/-- While no revision begins, nothing but the request in flight and the calls matters to the
account. -/
theorem Accounted.keep {s t : Session} {calls calls' : List SearchCall} {past : List Revision}
    (h : Accounted settings s calls past) (hlatest : t.revisions.latest = s.revisions.latest)
    (hrequests : t.metrics.searchRequests = s.metrics.searchRequests)
    (hcalls : callKeys calls' ++ queuedKeys t.inFlight = callKeys calls ++ queuedKeys s.inFlight) :
    Accounted settings t calls' past :=
  ⟨hlatest.trans h.latest_eq, h.numbers_eq, hrequests.trans h.requests_eq, hcalls ▸ h.calls_sublist⟩

theorem searchRequests_complete (s : Session) (result : SearchResult) :
    (s.complete ⟨s.snapshot.revision⟩ result).metrics.searchRequests =
      s.metrics.searchRequests := by
  rw [s.complete_of_current result]
  cases result <;> rfl

theorem Accounted.visit {past : List Revision} (hvalid : Valid settings r)
    (h : Accounted settings r.session r.calls past) (history : History) :
    Accounted settings (r.session.visit history) r.calls
      (past ++ begun r { r with session := r.session.visit history }) := by
  have hlatest := hvalid.revision_eq
  obtain rfl := hvalid.settings_eq
  rcases r.session.visit_cases history with ⟨-, heq⟩ | ⟨-, heq⟩ | ⟨-, heq⟩
  · rw [heq, begun, if_pos rfl, List.append_nil]
    exact h.keep rfl rfl rfl
  · rw [heq, begun, if_pos rfl, List.append_nil]
    exact h.keep rfl rfl rfl
  · have hbegins := { r.session with history }.begins_beginRevision
      (SearchState.ofLocation history.current)
    have hmoved : Accounted r.session.settings { r.session with history } r.calls past :=
      h.keep rfl rfl rfl
    have hnew : (r.session.visit history).snapshot.revision ≠ r.session.snapshot.revision := by
      rw [heq, hbegins.revision_eq, hlatest]
      exact Nat.succ_ne_self _
    rw [begun, if_neg hnew]
    simp only [heq, hbegins.revision_eq, hbegins.state_eq]
    exact Accounted.begin (s := { r.session with history }) hmoved hbegins

/-- A task begins no revision. What was queued becomes a call. -/
theorem Accounted.runTasks {past : List Revision} (hvalid : Valid settings r)
    (h : Accounted settings r.session r.calls past) :
    Accounted settings r.runTasks.session r.runTasks.calls past ∧
      r.runTasks.session.snapshot.revision = r.session.snapshot.revision := by
  cases hvalid.phase with
  | empty query_eq outcome_eq idle =>
      rw [runTasks_of_idle idle]
      exact ⟨h, rfl⟩
  | sample query_eq outcome_eq idle =>
      rw [runTasks_of_idle idle]
      exact ⟨h, rfl⟩
  | settled asks seeks outcome_eq idle called =>
      rw [runTasks_of_idle idle]
      exact ⟨h, rfl⟩
  | waiting asks seeks outcome_eq inFlight_eq called =>
      rw [runTasks_of_waiting inFlight_eq]
      exact ⟨h, rfl⟩
  | answered asks seeks outcome_eq inFlight_eq called =>
      rw [runTasks_of_answered inFlight_eq]
      refine ⟨h.keep ?_ (searchRequests_complete _ _) ?_, ?_⟩
      · rw [Session.complete_of_current]
      · rw [Session.complete_of_current, inFlight_eq]
        rfl
      · rw [Session.complete_of_current]
  | @queued request asks seeks outcome_eq inFlight_eq fresh =>
      have hkeys : ∀ reply,
          callKeys (r.calls ++ [⟨⟨r.session.snapshot.revision⟩, request, reply⟩]) ++ [] =
          callKeys r.calls ++ queuedKeys r.session.inFlight := by
        intro reply
        rw [inFlight_eq, List.append_nil, callKeys, List.map_append]
        rfl
      rw [runTasks_of_queued inFlight_eq]
      cases r.backend request with
      | some result =>
          have heq := r.session.complete_of_current result
          refine ⟨h.keep ?_ (searchRequests_complete _ _) ?_, ?_⟩
          · simp only [heq]
          · simp only [heq]
            exact hkeys (some result)
          · simp only [heq]
      | none => exact ⟨h.keep rfl rfl (hkeys none), rfl⟩

theorem callKeys_set {calls : List SearchCall} {call : Nat} {c : SearchCall}
    (h : calls[call]? = some c)
    (reply : Option SearchResult) : callKeys (calls.set call { c with reply }) = callKeys calls :=
  map_set_reply (fun c => (c.ticket.number, c.request)) h reply rfl

/-- A reply begins no revision and makes no request. -/
theorem Accounted.resolve {past : List Revision} (h : Accounted settings r.session r.calls past)
    (call : Nat) (result : SearchResult) :
    Accounted settings (r.resolve call result).session (r.resolve call result).calls past ∧
      (r.resolve call result).session.snapshot = r.session.snapshot := by
  rcases r.resolve_cases call result with
    heq | ⟨c, hget, -, ⟨ticket, request, hwaiting, heq⟩ | heq⟩
  · rw [heq]
    exact ⟨h, rfl⟩
  · rw [heq]
    refine ⟨h.keep rfl rfl ?_, rfl⟩
    rw [callKeys_set hget, hwaiting]
    rfl
  · rw [heq]
    exact ⟨h.keep rfl rfl (by rw [callKeys_set hget]), rfl⟩

theorem begun_of_revision_eq {next : SessionRun}
    (h : next.session.snapshot.revision = r.session.snapshot.revision) : begun r next = [] :=
  if_pos h

theorem Accounted.step {past : List Revision} (hvalid : Valid settings r)
    (h : Accounted settings r.session r.calls past) (op : SessionStep) :
    Accounted settings (r.step op).session (r.step op).calls (past ++ begun r (r.step op)) := by
  rcases r.step_cases op with hnav | hsame | ⟨delay, rfl⟩ | ⟨call, result, rfl⟩
  · obtain ⟨history, heq⟩ := step_of_navigates hnav
    rw [heq]
    exact h.visit hvalid history
  · rw [hsame, begun_of_revision_eq rfl, List.append_nil]
    exact h
  · obtain ⟨htasks, hrevision⟩ := h.runTasks hvalid
    have hbegun : begun r (r.step (.advance delay)) = [] := begun_of_revision_eq hrevision
    rw [hbegun, List.append_nil]
    exact htasks
  · obtain ⟨hreply, hshown⟩ := h.resolve call result
    have hbegun : begun r (r.step (.resolve call result)) = [] :=
      begun_of_revision_eq (congrArg Snapshot.revision hshown)
    rw [hbegun, List.append_nil]
    exact hreply

theorem Accounted.steps {past : List Revision} (hvalid : Valid settings r)
    (h : Accounted settings r.session r.calls past) (ops : List SessionStep) :
    Accounted settings (r.steps ops).session (r.steps ops).calls (past ++ r.begunBy ops) := by
  induction ops generalizing r past with
  | nil =>
      rw [begunBy, List.append_nil]
      exact h
  | cons op ops ih =>
      rw [begunBy, ← List.append_assoc]
      exact ih (hvalid.step op) (h.step hvalid op)

theorem accounted_atLocation (settings : SessionSettings) (l : Location) :
    Accounted settings (Session.atLocation settings l) []
      [⟨(Session.atLocation settings l).snapshot.revision,
        (Session.atLocation settings l).snapshot.state⟩] := by
  have hempty :
      Accounted (Session.unbegun settings l).settings (Session.unbegun settings l) [] [] :=
    ⟨rfl, rfl, rfl, List.Sublist.refl _⟩
  have hbegins := (Session.unbegun settings l).begins_beginRevision
    (Session.unbegun settings l).located
  rw [← Session.atLocation_eq] at hbegins
  rw [hbegins.revision_eq, hbegins.state_eq]
  exact hempty.begin hbegins

theorem Accounted.start {backend : SearchRequest → Option SearchResult} {s : Session}
    (hvalid : Valid settings (start backend s))
    (h : Accounted settings s [] [⟨s.snapshot.revision, s.snapshot.state⟩])
    (ops : List SessionStep) :
    Accounted settings ((SessionRun.start backend s).steps ops).session
      ((SessionRun.start backend s).steps ops).calls
      ((SessionRun.start backend s).revisions ops) :=
  h.steps (r := SessionRun.start backend s) hvalid ops

/-- An event leads to another search exactly when it begins a revision, which makes one request if
the backend is asked for the search. Over a run the requests are those of the revisions the backend
is asked for, and the calls are some of these requests, in their order. -/
theorem refetch_iff_search_changed (backend : SearchRequest → Option SearchResult)
    (settings : SessionSettings) (l : Location) (ops : List SessionStep) :
    let first := start backend (Session.atLocation settings l)
    let r := first.steps ops
    let revisions := first.revisions ops
    (∀ op, r.Navigates op →
      let next := r.step op
      let before := r.session.snapshot.state
      let after := SearchState.ofLocation next.session.history.current
      (before.SameSearch after → Stays r next ∧
        (next.session.published ≠ r.session.published ↔
          before.categories.labels ≠ after.categories.labels)) ∧
      (¬ before.SameSearch after → Renews settings r next)) ∧
    revisions.map Revision.number = List.range' 1 revisions.length ∧
    r.session.snapshot.revision = revisions.length ∧
    r.session.metrics.searchRequests = (asked settings revisions).length ∧
    (r.calls.map fun c => c.ticket.number).Pairwise (· < ·) ∧
    (callKeys r.calls).Sublist (askedKeys settings revisions) := by
  intro first r revisions
  have hvalid : Valid settings r := (valid_start backend settings l).steps ops
  have haccounted : Accounted settings r.session r.calls revisions :=
    (accounted_atLocation settings l).start (valid_start backend settings l) ops
  refine ⟨?_, haccounted.numbers_eq, hvalid.revision_eq.trans haccounted.latest_eq,
    haccounted.requests_eq,
    hvalid.called_lt, (List.sublist_append_left _ _).trans haccounted.calls_sublist⟩
  intro op hnav
  obtain ⟨history, heq⟩ := step_of_navigates hnav
  rw [heq]
  simp only [Session.visit_history]
  exact ⟨hvalid.stays_visit, hvalid.renews_visit⟩

/-- The labels in another order are shown without a request; another label is asked for. -/
theorem refetch_iff_search_changed_lamp :
    let r := (start (fun _ => none)
      (Session.atLocation {} ⟨"/search", [("q", "lamp"), ("cat", "A"), ("cat", "B")]⟩)).steps
        [.advance 0]
    Stays r (r.step (.setCategories ⟨["B", "A"]⟩)) ∧
      (r.step (.setCategories ⟨["B", "A"]⟩)).session.published ≠ r.session.published ∧
      Renews {} r (r.step (.setCategories ⟨["A", "C"]⟩)) := by
  intro r
  have hbefore : r.session.snapshot.state = ⟨"lamp", ⟨["A", "B"]⟩⟩ := by decide +kernel
  have hafter : ∀ labels, (r.step (.setCategories ⟨labels⟩)).session.history.current =
      SearchState.applyTo
        { SearchState.ofLocation r.session.history.current with categories := ⟨labels⟩ }
        r.session.history.current := by
    intro labels
    rw [show (r.step (.setCategories ⟨labels⟩)).session.history = _ from Session.visit_history _ _]
    rfl
  have hreordered :
      SearchState.ofLocation (r.step (.setCategories ⟨["B", "A"]⟩)).session.history.current =
      ⟨"lamp", ⟨["B", "A"]⟩⟩ := by
    rw [hafter]
    decide +kernel
  have hchanged :
      SearchState.ofLocation (r.step (.setCategories ⟨["A", "C"]⟩)).session.history.current =
      ⟨"lamp", ⟨["A", "C"]⟩⟩ := by
    rw [hafter]
    decide +kernel
  have hlaw := (refetch_iff_search_changed (fun _ => none) {}
    ⟨"/search", [("q", "lamp"), ("cat", "A"), ("cat", "B")]⟩ [.advance 0]).1
  have hsame : r.session.snapshot.state.SameSearch ⟨"lamp", ⟨["B", "A"]⟩⟩ := by
    rw [hbefore]
    exact ⟨rfl, fun label => by simp [or_comm]⟩
  obtain ⟨hstays, hpublished⟩ := (hlaw (.setCategories ⟨["B", "A"]⟩) trivial).1 (hreordered ▸ hsame)
  refine ⟨hstays, hpublished.mpr ?_, (hlaw (.setCategories ⟨["A", "C"]⟩) trivial).2 ?_⟩
  · rw [hreordered]
    exact fun heq => absurd ((congrArg (fun s => s.categories.labels) hbefore).symm.trans heq)
      (by decide)
  · rw [hchanged]
    rintro ⟨-, hlabels⟩
    have hmem := (hlabels "B").mp (by rw [hbefore]; simp)
    simp at hmem

end SessionRun

end Storefront
