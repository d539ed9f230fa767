import Storefront.Proofs.Session.Revisions

/-! # How a revision settles

An outcome is awaited exactly while the request of the revision that is shown is in flight. It comes
at most once, and stays until the next revision begins. Everything here follows from what one event
can do to what is shown and to the counters, which is said once. -/

namespace Storefront

/-- How what is shown can go on: revisions do not go back, and within one of them the outcome changes
only from loading to one after which nothing is waited for. -/
structure Snapshot.Precedes (earlier later : Snapshot) : Prop where
  revision_le : earlier.revision ≤ later.revision
  settles : earlier.revision = later.revision → later.outcome = earlier.outcome ∨
    earlier.outcome = .loading ∧ later.outcome.isTerminal = true

theorem Snapshot.Precedes.refl (s : Snapshot) : s.Precedes s :=
  ⟨Nat.le_refl _, fun _ => .inl rfl⟩

theorem Snapshot.Precedes.trans {s t u : Snapshot} (hst : s.Precedes t) (htu : t.Precedes u) :
    s.Precedes u := by
  have hle := hst.revision_le
  have hle' := htu.revision_le
  refine ⟨by omega, ?_⟩
  intro hsame
  have hfirst := hst.settles (by omega)
  have hrest := htu.settles (by omega)
  rcases hfirst with hfirst | ⟨hloading, hterminal⟩
  · rwa [hfirst] at hrest
  · -- A terminal outcome is not loading, so that it stays.
    rcases hrest with hrest | ⟨hloading', -⟩
    · exact .inr ⟨hloading, hrest ▸ hterminal⟩
    · rw [hloading'] at hterminal
      simp [Outcome.isTerminal] at hterminal

theorem Outcome.isTerminal_ofResult (result : SearchResult) :
    (ofResult result).isTerminal = true := by
  cases result <;> rfl

theorem Outcome.ne_idle_of_isTerminal {o : Outcome} (h : o.isTerminal = true) : o ≠ .idle := by
  rintro rfl
  simp [isTerminal] at h

/-- The counters once a revision has begun: a search with samples is a hit, and one for which the
backend is asked makes a request. -/
def SessionSettings.count (settings : SessionSettings) (m : Metrics) (state : SearchState) :
    Metrics :=
  if state.query = "" then m
  else if settings.sampleQuery = some state.query then m.record .sampleHit
  else m.record .searchRequest

theorem Session.metrics_beginRevision (s : Session) (state : SearchState) :
    (s.beginRevision state).metrics = s.settings.count s.metrics state := by
  rcases s.settings.empty_or_sample_or_asks state with h | h | h
  · rw [beginRevision_of_empty s h, SessionSettings.count, if_pos h]
  · rw [beginRevision_of_sample s h, SessionSettings.count, if_neg h.1, if_pos h.2]
  · rw [beginRevision_of_asks s h, SessionSettings.count, if_neg h.1, if_neg h.2]

/-- The counters once a request was answered in time. -/
def Metrics.answer (m : Metrics) : SearchResult → Metrics
  | .ok _ => m
  | .error _ => m.record .searchFailure

namespace SessionRun

/-- What an event can do to what is shown and to the counters. -/
inductive Turn (settings : SessionSettings) (r next : SessionRun) : Prop where
  /-- The same search is still shown, perhaps in another order. -/
  | stays (query_eq : next.session.snapshot.state.query = r.session.snapshot.state.query)
      (revision_eq : next.session.snapshot.revision = r.session.snapshot.revision)
      (outcome_eq : next.session.snapshot.outcome = r.session.snapshot.outcome)
      (metrics_eq : next.session.metrics = r.session.metrics)
  | begins (revision_eq : next.session.snapshot.revision = r.session.snapshot.revision + 1)
      (outcome_eq :
        next.session.snapshot.outcome = settings.opening next.session.snapshot.state)
      (metrics_eq :
        next.session.metrics = settings.count r.session.metrics next.session.snapshot.state)
  | settles (result : SearchResult) (awaited : r.session.snapshot.outcome = .loading)
      (snapshot_eq : next.session.snapshot =
        { r.session.snapshot with outcome := .ofResult result })
      (metrics_eq : next.session.metrics = r.session.metrics.answer result)

variable {settings : SessionSettings} {r next : SessionRun}

theorem Turn.refl (settings : SessionSettings) (r : SessionRun) : Turn settings r r :=
  .stays rfl rfl rfl rfl

/-! ## What one event does -/

/-- Nothing is in flight and the outcome has come, or the request of the revision is in flight and
the outcome is awaited. -/
theorem Valid.idle_or_loading (h : Valid settings r) :
    (r.session.inFlight = none ∧ r.session.snapshot.outcome.isTerminal = true) ∨
      (r.session.inFlight.isSome = true ∧ r.session.snapshot.outcome = .loading) := by
  cases h.phase with
  | empty query_eq outcome_eq idle => exact .inl ⟨idle, by rw [outcome_eq]; rfl⟩
  | sample query_eq outcome_eq idle => exact .inl ⟨idle, by rw [outcome_eq]; rfl⟩
  | settled asks seeks outcome_eq idle called =>
      exact .inl ⟨idle, by rw [outcome_eq, Outcome.isTerminal_ofResult]⟩
  | queued asks seeks outcome_eq inFlight_eq fresh =>
      exact .inr ⟨by rw [inFlight_eq]; rfl, outcome_eq⟩
  | waiting asks seeks outcome_eq inFlight_eq called =>
      exact .inr ⟨by rw [inFlight_eq]; rfl, outcome_eq⟩
  | answered asks seeks outcome_eq inFlight_eq called =>
      exact .inr ⟨by rw [inFlight_eq]; rfl, outcome_eq⟩

theorem Valid.outcome_ne_idle (h : Valid settings r) : r.session.snapshot.outcome ≠ .idle := by
  rcases h.idle_or_loading with ⟨-, hterminal⟩ | ⟨-, hloading⟩
  · exact Outcome.ne_idle_of_isTerminal hterminal
  · simp [hloading]

theorem Valid.loading_iff (h : Valid settings r) :
    r.session.snapshot.outcome = .loading ↔ r.session.inFlight.isSome = true := by
  rcases h.idle_or_loading with ⟨hidle, hterminal⟩ | ⟨hsome, hloading⟩
  · refine iff_of_false ?_ (by simp [hidle])
    intro hloading
    rw [hloading] at hterminal
    simp [Outcome.isTerminal] at hterminal
  · exact iff_of_true hloading hsome

theorem Valid.turn_visit (h : Valid settings r) (history : History) :
    Turn settings r { r with session := r.session.visit history } := by
  have hlatest := h.revision_eq
  obtain rfl := h.settings_eq
  rcases r.session.visit_cases history with ⟨-, heq⟩ | ⟨⟨hquery, -, -⟩, heq⟩ | ⟨-, heq⟩
  · rw [heq]
    exact .stays rfl rfl rfl rfl
  · rw [heq]
    exact .stays hquery.symm rfl rfl rfl
  · have hbegins := { r.session with history }.begins_beginRevision
      (SearchState.ofLocation history.current)
    rw [heq]
    refine .begins ?_ ?_ ?_
    · rw [hbegins.revision_eq, hlatest]
    · rw [Session.outcome_beginRevision, hbegins.state_eq]
    · rw [Session.metrics_beginRevision, hbegins.state_eq]

/-- An answer to the request in flight is shown. -/
theorem turn_complete (hloading : r.session.snapshot.outcome = .loading) (result : SearchResult)
    (calls : List SearchCall) :
    Turn settings r { r with
      calls, session := r.session.complete ⟨r.session.snapshot.revision⟩ result } := by
  refine .settles result hloading ?_ ?_
  · rw [Session.complete_of_current]
  · rw [Session.complete_of_current]
    cases result <;> rfl

theorem Valid.turn_runTasks (h : Valid settings r) : Turn settings r r.runTasks := by
  cases h.phase with
  | empty query_eq outcome_eq idle =>
      rw [runTasks_of_idle idle]
      exact .refl settings r
  | sample query_eq outcome_eq idle =>
      rw [runTasks_of_idle idle]
      exact .refl settings r
  | settled asks seeks outcome_eq idle called =>
      rw [runTasks_of_idle idle]
      exact .refl settings r
  | waiting asks seeks outcome_eq inFlight_eq called =>
      rw [runTasks_of_waiting inFlight_eq]
      exact .refl settings r
  | answered asks seeks outcome_eq inFlight_eq called =>
      rw [runTasks_of_answered inFlight_eq]
      exact turn_complete outcome_eq _ _
  | queued asks seeks outcome_eq inFlight_eq fresh =>
      rw [runTasks_of_queued inFlight_eq]
      split
      · exact turn_complete outcome_eq _ _
      · exact .stays rfl rfl rfl rfl

theorem turn_resolve (settings : SessionSettings) (r : SessionRun) (call : Nat)
    (result : SearchResult) : Turn settings r (r.resolve call result) := by
  rcases r.resolve_cases call result with heq | ⟨c, -, -, ⟨ticket, request, -, heq⟩ | heq⟩
  · rw [heq]
    exact .refl settings r
  · rw [heq]
    exact .stays rfl rfl rfl rfl
  · rw [heq]
    exact .stays rfl rfl rfl rfl

theorem Valid.turn_step (h : Valid settings r) (op : SessionStep) :
    Turn settings r (r.step op) := by
  rcases r.step_cases op with hnav | hsame | ⟨delay, rfl⟩ | ⟨call, result, rfl⟩
  · obtain ⟨history, heq⟩ := step_of_navigates hnav
    rw [heq]
    exact h.turn_visit history
  · rw [hsame]
    exact .refl settings r
  · -- The clock is no part of what is shown.
    cases h.turn_runTasks with
    | stays query_eq revision_eq outcome_eq metrics_eq =>
        exact .stays query_eq revision_eq outcome_eq metrics_eq
    | begins revision_eq outcome_eq metrics_eq => exact .begins revision_eq outcome_eq metrics_eq
    | settles result awaited snapshot_eq metrics_eq =>
        exact .settles result awaited snapshot_eq metrics_eq
  · exact turn_resolve settings r call result

/-! ## What is shown over a run -/

theorem Turn.precedes (h : Turn settings r next) :
    r.session.snapshot.Precedes next.session.snapshot := by
  cases h with
  | stays query_eq revision_eq outcome_eq metrics_eq =>
      exact ⟨Nat.le_of_eq revision_eq.symm, fun _ => .inl outcome_eq⟩
  | begins revision_eq outcome_eq metrics_eq =>
      refine ⟨by omega, ?_⟩
      intro hsame
      omega
  | settles result awaited snapshot_eq metrics_eq =>
      rw [snapshot_eq]
      exact ⟨Nat.le_refl _, fun _ => .inr ⟨awaited, Outcome.isTerminal_ofResult result⟩⟩

/-- No answer is found to be late. -/
theorem Turn.staleResults_eq (h : Turn settings r next) :
    next.session.metrics.staleResults = r.session.metrics.staleResults := by
  cases h with
  | stays query_eq revision_eq outcome_eq metrics_eq => rw [metrics_eq]
  | begins revision_eq outcome_eq metrics_eq =>
      rw [metrics_eq, SessionSettings.count]
      split
      · rfl
      · split <;> rfl
  | settles result awaited snapshot_eq metrics_eq =>
      rw [metrics_eq]
      cases result <;> rfl

/-- What is shown before and after each of a list of events. -/
def shownOver (r : SessionRun) : List SessionStep → List Snapshot
  | [] => [r.session.snapshot]
  | op :: ops => r.session.snapshot :: (r.step op).shownOver ops

/-- Each revision settles once: whatever is shown precedes everything that is shown later. -/
theorem Valid.pairwise_shownOver (h : Valid settings r) (ops : List SessionStep) :
    (r.shownOver ops).Pairwise Snapshot.Precedes ∧
      ∀ s ∈ r.shownOver ops, r.session.snapshot.Precedes s := by
  induction ops generalizing r with
  | nil =>
      refine ⟨List.pairwise_singleton _ _, ?_⟩
      intro s hs
      rw [List.mem_singleton.mp hs]
      exact .refl _
  | cons op ops ih =>
      have hfirst := (h.turn_step op).precedes
      obtain ⟨hpairwise, hlater⟩ := ih (h.step op)
      have hall : ∀ s ∈ (r.step op).shownOver ops, r.session.snapshot.Precedes s := by
        intro s hs
        exact hfirst.trans (hlater s hs)
      exact ⟨List.pairwise_cons.mpr ⟨hall, hpairwise⟩, List.forall_mem_cons.mpr ⟨.refl _, hall⟩⟩

theorem Valid.staleResults_steps (h : Valid settings r) (ops : List SessionStep) :
    (r.steps ops).session.metrics.staleResults = r.session.metrics.staleResults := by
  induction ops generalizing r with
  | nil => rfl
  | cons op ops ih => exact (ih (h.step op)).trans (h.turn_step op).staleResults_eq

theorem staleResults_start (backend : SearchRequest → Option SearchResult)
    (settings : SessionSettings) (l : Location) :
    (start backend (Session.atLocation settings l)).session.metrics.staleResults = 0 := by
  rw [start, Session.atLocation_eq, (Session.answers_beginRevision _ _).1]
  rfl

/-! ## Waiting for the outcome -/

theorem now_runTasks (r : SessionRun) : r.runTasks.now = r.now := by
  rw [runTasks, poll?]
  split
  · rfl
  · split
    · rfl
    · rfl
    · split <;> rfl

/-- Waiting for the outcome lets tasks run, and does nothing else. -/
theorem exists_steps_eq_settled (r : SessionRun) (patience : Nat) :
    ∃ later, (r.settled patience).2 = r.steps later := by
  have hadvance : r.advance 0 = r.runTasks := by
    rw [advance, Nat.add_zero, ← now_runTasks]
  rw [settled]
  split
  · refine ⟨[.advance 0, .advance patience], ?_⟩
    exact congrArg (fun s => s.advance patience) hadvance.symm
  · exact ⟨[.advance 0], hadvance.symm⟩

/-- Once tasks have run, a request that is still in flight waits for its reply. -/
theorem Valid.inFlight_runTasks (h : Valid settings r) :
    r.runTasks.session.inFlight.isSome = true ↔ ∃ ticket request call,
      r.runTasks.session.inFlight = some ⟨ticket, request, .waiting call⟩ := by
  constructor
  · intro hsome
    cases h.phase with
    | empty query_eq outcome_eq idle => simp [runTasks_of_idle idle, idle] at hsome
    | sample query_eq outcome_eq idle => simp [runTasks_of_idle idle, idle] at hsome
    | settled asks seeks outcome_eq idle called => simp [runTasks_of_idle idle, idle] at hsome
    | waiting asks seeks outcome_eq inFlight_eq called =>
        rw [runTasks_of_waiting inFlight_eq]
        exact ⟨_, _, _, inFlight_eq⟩
    | answered asks seeks outcome_eq inFlight_eq called =>
        simp [runTasks_of_answered inFlight_eq, Session.complete_of_current] at hsome
    | queued asks seeks outcome_eq inFlight_eq fresh =>
        rw [runTasks_of_queued inFlight_eq] at hsome ⊢
        split at hsome
        · simp [Session.complete_of_current] at hsome
        · exact ⟨_, _, _, rfl⟩
  · rintro ⟨ticket, request, call, hwaiting⟩
    rw [hwaiting]
    rfl

/-- Waiting for the outcome comes to nothing only if a reply is still missing. -/
theorem Valid.settled_eq_none_iff (h : Valid settings r) (patience : Nat) :
    (r.settled patience).1 = none ↔ ∃ ticket request call,
      r.runTasks.session.inFlight = some ⟨ticket, request, .waiting call⟩ := by
  rw [← h.inFlight_runTasks, ← h.runTasks.loading_iff, settled]
  cases r.runTasks.session.snapshot.outcome <;> simp [Outcome.isLoading]

theorem Valid.terminal_of_settled (h : Valid settings r) {patience : Nat} {shown : Snapshot}
    (hshown : (r.settled patience).1 = some shown) :
    shown = (r.settled patience).2.session.snapshot ∧ shown.outcome.isTerminal = true := by
  rw [settled] at hshown ⊢
  split at hshown
  · simp at hshown
  · rename_i hnot
    obtain rfl := Option.some.inj hshown
    refine ⟨by rw [if_neg hnot], ?_⟩
    rcases h.runTasks.idle_or_loading with ⟨-, hterminal⟩ | ⟨-, hloading⟩
    · exact hterminal
    · simp [hloading, Outcome.isLoading] at hnot

/-- An outcome is awaited exactly while a request is in flight, which is then that of the revision
that is shown, the last one that has begun. Within a revision the outcome changes at most once, from
loading to success or failure, and revisions are numbered without gaps; no answer is ever found to be
late. Whoever waits for the outcome is never given one that is still awaited, and is given one unless
a reply is missing. -/
theorem outcome_settles_once (backend : SearchRequest → Option SearchResult)
    (settings : SessionSettings) (l : Location) (ops : List SessionStep) :
    let first := start backend (Session.atLocation settings l)
    let r := first.steps ops
    let shown := r.session.snapshot
    shown.outcome ≠ .idle ∧
    (shown.outcome = .loading ↔ r.session.inFlight.isSome = true) ∧
    (∀ f, r.session.inFlight = some f → f.ticket.number = shown.revision) ∧
    shown.revision = r.session.revisions.latest ∧
    (first.shownOver ops).Pairwise Snapshot.Precedes ∧
    (first.revisions ops).map Revision.number = List.range' 1 (first.revisions ops).length ∧
    shown.revision = (first.revisions ops).length ∧
    r.session.metrics.staleResults = 0 ∧
    ∀ patience,
      (∃ later, (r.settled patience).2 = r.steps later) ∧
      ((r.settled patience).1 = none ↔ ∃ ticket request call,
        r.runTasks.session.inFlight = some ⟨ticket, request, .waiting call⟩) ∧
      ∀ snapshot, (r.settled patience).1 = some snapshot →
        snapshot = (r.settled patience).2.session.snapshot ∧
          snapshot.outcome.isTerminal = true := by
  intro first r shown
  have hfirst : Valid settings first := valid_start backend settings l
  have hvalid : Valid settings r := hfirst.steps ops
  have haccounted : Accounted settings r.session r.calls (first.revisions ops) :=
    (accounted_atLocation settings l).start hfirst ops
  have hstale := ((valid_start backend settings l).staleResults_steps ops).trans
    (staleResults_start backend settings l)
  refine ⟨hvalid.outcome_ne_idle, hvalid.loading_iff, ?_, hvalid.revision_eq,
    (hfirst.pairwise_shownOver ops).1, haccounted.numbers_eq,
    hvalid.revision_eq.trans haccounted.latest_eq, hstale, ?_⟩
  · intro f hf
    rw [hvalid.ticket_eq hf]
  · intro patience
    exact ⟨r.exists_steps_eq_settled patience, hvalid.settled_eq_none_iff patience,
      fun _ hshown => hvalid.terminal_of_settled hshown⟩

/-- The reply to the search in category A comes late, and the outcome is that of the search in
category B. -/
theorem outcome_settles_once_late_reply :
    let first := start (fun _ => none)
      (Session.atLocation {} ⟨"/search", [("q", "shirt"), ("cat", "A")]⟩)
    let r := first.steps [.advance 0, .setCategories ⟨["B"]⟩, .advance 0, .resolve 0 (.ok []),
      .resolve 1 (.ok Product.samples)]
    r.session.inFlight.isSome = true ∧ r.session.snapshot.outcome = .loading ∧
      ∃ snapshot, (r.settled 10).1 = some snapshot ∧ snapshot.outcome.isTerminal = true := by
  intro first r
  have hlaw := outcome_settles_once (fun _ => none) {} ⟨"/search", [("q", "shirt"), ("cat", "A")]⟩
    [.advance 0, .setCategories ⟨["B"]⟩, .advance 0, .resolve 0 (.ok []),
      .resolve 1 (.ok Product.samples)]
  have hsome : r.session.inFlight.isSome = true := by decide +kernel
  have hsettled : (r.settled 10).1.isSome = true := by decide +kernel
  obtain ⟨snapshot, hsnapshot⟩ := Option.isSome_iff_exists.mp hsettled
  subst r first
  have hloading := hlaw.2.1.mpr hsome
  have hterminal := (hlaw.2.2.2.2.2.2.2.2 10).2.2 snapshot hsnapshot
  exact ⟨hsome, hloading, snapshot, hsnapshot, hterminal.2⟩

end SessionRun

end Storefront
