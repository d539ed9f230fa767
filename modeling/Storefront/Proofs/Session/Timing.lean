import Storefront.Proofs.Session.Invariant

/-! # Timing does not show

When tasks run and when replies come makes no difference to where a session gets to, nor to what it
shows once nothing is left to wait for. Every run is compared with the plain one, which navigates in
the same way and in which no task ever runs: its request in flight is still the one that the
revision began with, and what the backend answers to that is what the other run shows in the end. -/

namespace Storefront

attribute [ext] Snapshot

/-- Whether an event is a navigation, whatever it does to the session. -/
def SessionStep.isNavigation : SessionStep → Bool
  | .advance _ => false
  | .resolve _ _ => false
  | _ => true

/-! ## Schedules -/

namespace SessionRun

variable {answer : SearchRequest → SearchResult} {settings : SessionSettings} {s : Session}
  {r : SessionRun}

/-- What a backend answers at once is what it would answer later. -/
def Agrees (answer : SearchRequest → SearchResult)
    (backend : SearchRequest → Option SearchResult) : Prop :=
  ∀ request result, backend request = some result → result = answer request

/-- A reply to a call that has none is the answer to its request. -/
def RepliesAs (answer : SearchRequest → SearchResult) (r : SessionRun) : SessionStep → Prop
  | .resolve call result =>
    ∀ c, r.calls[call]? = some c → c.reply = none → result = answer c.request
  | _ => True

theorem repliesAs_resolve {call : Nat} (request : SearchRequest)
    (h : r.calls[call]?.map SearchCall.request = some request) :
    RepliesAs answer r (.resolve call (answer request)) := by
  intro c hc _
  rw [hc, Option.map_some, Option.some.injEq] at h
  rw [h]

/-- Whatever replies come in the course of events are the answers to the requests. -/
def Faithful (answer : SearchRequest → SearchResult) (r : SessionRun) : List SessionStep → Prop
  | [] => True
  | op :: ops => RepliesAs answer r op ∧ Faithful answer (r.step op) ops

/-- A session's life with a backend whose replies are answers to the requests, whether they come at
once or later. -/
structure Schedule (answer : SearchRequest → SearchResult) (s : Session) where
  backend : SearchRequest → Option SearchResult
  events : List SessionStep
  agrees : Agrees answer backend
  faithful : Faithful answer (start backend s) events

namespace Schedule

def finish (w : Schedule answer s) : SessionRun :=
  (start w.backend s).steps w.events

def navigations (w : Schedule answer s) : List SessionStep :=
  w.events.filter SessionStep.isNavigation

end Schedule

/-- No task can run, and no request in flight waits for a reply. -/
structure Quiescent (r : SessionRun) : Prop where
  unpolled : r.poll? = none
  unawaited : ∀ ticket request call,
    r.session.inFlight = some ⟨ticket, request, .waiting call⟩ → r.isWaiting call = false

theorem quiescent_of_idle (h : r.session.inFlight = none) : Quiescent r :=
  ⟨by simp [poll?, h], fun _ _ _ hf => nomatch hf.symm.trans h⟩

theorem Valid.idle_of_quiescent (h : Valid settings r) (hquiescent : Quiescent r) :
    r.session.inFlight = none := by
  cases h.phase with
  | empty query_eq outcome_eq idle => exact idle
  | sample query_eq outcome_eq idle => exact idle
  | settled asks seeks outcome_eq idle called => exact idle
  | queued asks seeks outcome_eq inFlight_eq fresh =>
      have hpoll := hquiescent.unpolled
      simp only [poll?, inFlight_eq] at hpoll
      split at hpoll <;> cases hpoll
  | answered asks seeks outcome_eq inFlight_eq called =>
      have hpoll := hquiescent.unpolled
      simp [poll?, inFlight_eq] at hpoll
  | waiting asks seeks outcome_eq inFlight_eq called =>
      have hwaiting := hquiescent.unawaited _ _ _ inFlight_eq
      simp [isWaiting, called, SearchCall.answered] at hwaiting

end SessionRun

/-! ## Sessions that have been led the same way -/

namespace Session

/-- Two sessions agree in all that a navigation looks at, and in how many requests were made. -/
structure Alike (s t : Session) : Prop where
  settings_eq : s.settings = t.settings
  history_eq : s.history = t.history
  revisions_eq : s.revisions = t.revisions
  revision_eq : s.snapshot.revision = t.snapshot.revision
  state_eq : s.snapshot.state = t.snapshot.state
  searchRequests_eq : s.metrics.searchRequests = t.metrics.searchRequests
  sampleHits_eq : s.metrics.sampleHits = t.metrics.sampleHits

theorem Alike.refl (s : Session) : s.Alike s :=
  ⟨rfl, rfl, rfl, rfl, rfl, rfl, rfl⟩

/-- How a session has fared with the request of a revision, which the plain session still has in
flight. -/
inductive Progress (answer : SearchRequest → SearchResult) (plain s : Session) : Prop
  | known (unasked : plain.inFlight = none) (idle : s.inFlight = none)
      (outcome_eq : s.snapshot.outcome = plain.snapshot.outcome)
  | running {ticket : Ticket} {request : SearchRequest} {stage : Stage}
      (asked : plain.inFlight = some ⟨ticket, request, .queued⟩)
      (inFlight_eq : s.inFlight = some ⟨ticket, request, stage⟩)
      (answered : ∀ result, stage = .answered result → result = answer request)
  | settled {ticket : Ticket} {request : SearchRequest}
      (asked : plain.inFlight = some ⟨ticket, request, .queued⟩) (idle : s.inFlight = none)
      (outcome_eq : s.snapshot.outcome = .ofResult (answer request))

variable {answer : SearchRequest → SearchResult} {plain s : Session}

/-- The request in flight is no part of what sessions agree in. -/
theorem Alike.withInFlight (h : s.Alike plain) (inFlight : Option InFlight) :
    { s with inFlight }.Alike plain :=
  ⟨h.settings_eq, h.history_eq, h.revisions_eq, h.revision_eq, h.state_eq, h.searchRequests_eq,
    h.sampleHits_eq⟩

theorem Alike.complete (h : s.Alike plain) (result : SearchResult) :
    (s.complete ⟨s.snapshot.revision⟩ result).Alike plain := by
  rw [s.complete_of_current result]
  cases result <;> exact ⟨h.settings_eq, h.history_eq, h.revisions_eq, h.revision_eq, h.state_eq,
    h.searchRequests_eq, h.sampleHits_eq⟩

theorem progress_complete {ticket : Ticket} {request : SearchRequest}
    (asked : plain.inFlight = some ⟨ticket, request, .queued⟩) :
    Progress answer plain (s.complete ⟨s.snapshot.revision⟩ (answer request)) := by
  rw [s.complete_of_current]
  exact .settled asked rfl rfl

theorem Alike.beginRevision (h : s.Alike plain) (state : SearchState) :
    (s.beginRevision state).Alike (plain.beginRevision state) ∧
      Progress answer (plain.beginRevision state) (s.beginRevision state) := by
  obtain ⟨hsettings, hhistory, hrevisions, -, -, hrequests, hsamples⟩ := h
  have hticket : s.nextTicket = plain.nextTicket := congrArg (fun g => g.issue.1) hrevisions
  have hissue : s.revisions.issue.2 = plain.revisions.issue.2 :=
    congrArg (fun g => g.issue.2) hrevisions
  rcases s.settings.empty_or_sample_or_asks state with hstate | hstate | hstate
  · rw [s.beginRevision_of_empty hstate, plain.beginRevision_of_empty hstate, hticket]
    exact ⟨⟨hsettings, hhistory, hissue, rfl, rfl, hrequests, hsamples⟩, .known rfl rfl rfl⟩
  · have hplain := hsettings ▸ hstate
    rw [s.beginRevision_of_sample hstate, plain.beginRevision_of_sample hplain, hticket]
    exact ⟨⟨hsettings, hhistory, hissue, rfl, rfl, hrequests, congrArg (· + 1) hsamples⟩,
      .known rfl rfl rfl⟩
  · have hplain := hsettings ▸ hstate
    rw [s.beginRevision_of_asks hstate, plain.beginRevision_of_asks hplain, hticket]
    exact ⟨⟨hsettings, hhistory, hissue, rfl, rfl, congrArg (· + 1) hrequests, hsamples⟩,
      .running rfl rfl fun _ hstage => nomatch hstage⟩

/-- Progress is a matter of the requests in flight and the outcomes. -/
theorem Progress.keep {plain' s' : Session} (h : Progress answer plain s)
    (hplain : plain'.inFlight = plain.inFlight)
    (hplain' : plain'.snapshot.outcome = plain.snapshot.outcome)
    (hs : s'.inFlight = s.inFlight) (hs' : s'.snapshot.outcome = s.snapshot.outcome) :
    Progress answer plain' s' := by
  cases h with
  | known unasked idle outcome_eq =>
      exact .known (hplain.trans unasked) (hs.trans idle)
        (hs'.trans (outcome_eq.trans hplain'.symm))
  | running asked inFlight_eq answered =>
      exact .running (hplain.trans asked) (hs.trans inFlight_eq) answered
  | settled asked idle outcome_eq =>
      exact .settled (hplain.trans asked) (hs.trans idle) (hs'.trans outcome_eq)

/-- Sessions that are alike go on alike, since only what they agree in decides whether a revision
begins. -/
theorem Alike.visit (h : s.Alike plain) (hprogress : Progress answer plain s) (history : History) :
    (s.visit history).Alike (plain.visit history) ∧
      Progress answer (plain.visit history) (s.visit history) := by
  by_cases hcanonical :
      s.snapshot.state.canonical = (SearchState.ofLocation history.current).canonical
  · obtain ⟨_, heq⟩ := s.visit_of_canonical_eq hcanonical
    obtain ⟨_, hplain⟩ := plain.visit_of_canonical_eq (h.state_eq ▸ hcanonical)
    rw [heq, hplain]
    exact ⟨⟨h.settings_eq, rfl, h.revisions_eq, h.revision_eq, rfl, h.searchRequests_eq,
      h.sampleHits_eq⟩, hprogress.keep rfl rfl rfl rfl⟩
  · have hmoved : { s with history }.Alike { plain with history } :=
      ⟨h.settings_eq, rfl, h.revisions_eq, h.revision_eq, h.state_eq, h.searchRequests_eq,
        h.sampleHits_eq⟩
    rw [s.visit_of_canonical_ne hcanonical,
      plain.visit_of_canonical_ne (h.state_eq ▸ hcanonical)]
    exact hmoved.beginRevision _

/-- What is shown once the request in flight has been answered, if there is one. -/
def settledOutcome (s : Session) (answer : SearchRequest → SearchResult) : Outcome :=
  match s.inFlight with
  | none => s.snapshot.outcome
  | some f => .ofResult (answer f.request)

/-- Where nothing is left to wait for, the plain session decides what is shown. -/
theorem Progress.outcome_of_idle (h : Progress answer plain s) (hidle : s.inFlight = none) :
    s.snapshot.outcome = plain.settledOutcome answer := by
  cases h with
  | known unasked idle outcome_eq => rwa [settledOutcome, unasked]
  | running asked inFlight_eq answered => cases hidle.symm.trans inFlight_eq
  | settled asked idle outcome_eq => rwa [settledOutcome, asked]

end Session

namespace SessionRun

open Session (Alike Progress)

/-- A run is where the plain session is, apart from the request in flight. -/
structure Follows (answer : SearchRequest → SearchResult) (plain : Session) (r : SessionRun) :
    Prop where
  alike : r.session.Alike plain
  progress : Progress answer plain r.session
  agrees : Agrees answer r.backend

variable {answer : SearchRequest → SearchResult} {settings : SessionSettings} {plain s : Session}
  {p r : SessionRun}

/-! ## Navigations -/

/-- A navigation leads sessions that are alike to the same history, or neither of them anywhere. -/
theorem alike_navigates (h : r.session.Alike p.session) {op : SessionStep}
    (hop : op.isNavigation = true) :
    (∃ history, r.step op = { r with session := r.session.visit history } ∧
      p.step op = { p with session := p.session.visit history }) ∨
    (r.step op = r ∧ p.step op = p) := by
  cases op with
  | submit text =>
      by_cases haccepts : Session.accepts text = true
      · refine .inl ⟨p.session.history.push (p.session.searched text), ?_, ?_⟩
        · simp only [step, Session.submit, haccepts, if_true, Session.visit, Session.searched,
            h.history_eq, h.settings_eq]
        · simp only [step, Session.submit, haccepts, if_true, Session.visit]
      · exact .inr (by simp [step, Session.submit, haccepts])
  | setCategories categories =>
      refine .inl ⟨_, ?_, rfl⟩
      simp only [step, Session.setCategories, Session.visit, h.history_eq]
  | toggle label =>
      refine .inl ⟨_, ?_, rfl⟩
      simp only [step, Session.toggle, Session.setCategories, Session.visit, h.history_eq,
        h.state_eq]
  | back =>
      cases hback : p.session.history.back? with
      | none => exact .inr (by simp [step, Session.back, h.history_eq, hback])
      | some history =>
          exact .inl ⟨history, by simp [step, Session.back, h.history_eq, hback, Session.visit]⟩
  | forward =>
      cases hforward : p.session.history.forward? with
      | none => exact .inr (by simp [step, Session.forward, h.history_eq, hforward])
      | some history =>
          exact .inl
            ⟨history, by simp [step, Session.forward, h.history_eq, hforward, Session.visit]⟩
  | advance delay => cases hop
  | resolve call result => cases hop

theorem Follows.navigate (h : Follows answer p.session r) {op : SessionStep}
    (hop : op.isNavigation = true) : Follows answer (p.step op).session (r.step op) := by
  rcases alike_navigates h.alike hop with ⟨history, hr, hp⟩ | ⟨hr, hp⟩
  · rw [hr, hp]
    obtain ⟨halike, hprogress⟩ := h.alike.visit h.progress history
    exact ⟨halike, hprogress, h.agrees⟩
  · rwa [hr, hp]

/-! ## Tasks and replies -/

theorem Follows.runTasks (hvalid : Valid settings r) (h : Follows answer plain r) :
    Follows answer plain r.runTasks := by
  cases h.progress with
  | known unasked idle outcome_eq => rwa [runTasks_of_idle idle]
  | settled asked idle outcome_eq => rwa [runTasks_of_idle idle]
  | @running ticket request stage asked inFlight_eq answered =>
      have hticket : ticket = ⟨r.session.snapshot.revision⟩ := hvalid.ticket_eq inFlight_eq
      cases stage with
      | waiting call => rwa [runTasks_of_waiting inFlight_eq]
      | answered result =>
          obtain rfl := answered result rfl
          rw [runTasks_of_answered inFlight_eq, hticket]
          exact ⟨h.alike.complete _, Session.progress_complete asked, h.agrees⟩
      | queued =>
          rw [runTasks_of_queued inFlight_eq, hticket]
          cases hbackend : r.backend request with
          | some result =>
              obtain rfl := h.agrees request result hbackend
              exact ⟨h.alike.complete _, Session.progress_complete asked, h.agrees⟩
          | none =>
              exact ⟨h.alike.withInFlight _,
                .running (hticket ▸ asked) rfl (fun _ hstage => nomatch hstage), h.agrees⟩

theorem Follows.resolve (hvalid : Valid settings r) (h : Follows answer plain r) {call : Nat}
    {result : SearchResult} (hreply : RepliesAs answer r (.resolve call result)) :
    Follows answer plain (r.resolve call result) := by
  rcases r.resolve_cases call result with
    heq | ⟨c, hget, hc, ⟨ticket, request, hwaiting, heq⟩ | heq⟩
  · rwa [heq]
  · have hresult := hreply c hget hc
    obtain rfl := Option.some.inj (hget.symm.trans (hvalid.called_of_waiting hwaiting))
    rw [heq]
    cases h.progress with
    | known unasked idle outcome_eq => cases hwaiting.symm.trans idle
    | settled asked idle outcome_eq => cases hwaiting.symm.trans idle
    | running asked inFlight_eq answered =>
        cases hwaiting.symm.trans inFlight_eq
        refine ⟨h.alike.withInFlight _, .running asked rfl fun _ hstage => ?_, h.agrees⟩
        cases hstage
        exact hresult
  · rw [heq]
    exact ⟨h.alike, h.progress, h.agrees⟩

theorem Follows.step (hvalid : Valid settings r) (h : Follows answer p.session r)
    {op : SessionStep} (hreply : RepliesAs answer r op) :
    Follows answer (p.steps ([op].filter SessionStep.isNavigation)).session (r.step op) := by
  by_cases hop : op.isNavigation = true
  · rw [List.filter_cons_of_pos hop]
    exact h.navigate hop
  · rw [List.filter_cons_of_neg hop]
    cases op with
    | advance delay =>
        have htasks := h.runTasks hvalid
        exact ⟨htasks.alike, htasks.progress, htasks.agrees⟩
    | resolve call result => exact h.resolve hvalid hreply
    | _ => exact absurd rfl hop

/-- However tasks and replies come between them, navigations lead a run to where they lead the plain
session. -/
theorem Follows.steps (hvalid : Valid settings r) (h : Follows answer p.session r)
    {ops : List SessionStep} (hfaithful : Faithful answer r ops) :
    Follows answer (p.steps (ops.filter SessionStep.isNavigation)).session (r.steps ops) := by
  induction ops generalizing p r with
  | nil => exact h
  | cons op ops ih =>
      obtain ⟨hreply, hrest⟩ := hfaithful
      have hstep := ih (hvalid.step op) (h.step hvalid hreply) hrest
      rwa [SessionRun.steps, SessionRun.steps, ← List.foldl_append, ← List.filter_append] at hstep

/-! ## The end of a schedule -/

/-- A session that starts has made its request, if any, in the way the plain one has. -/
theorem progress_atLocation (settings : SessionSettings) (l : Location) :
    Progress answer (Session.atLocation settings l) (Session.atLocation settings l) := by
  rw [Session.atLocation_eq]
  exact ((Alike.refl _).beginRevision _).2

theorem follows_start (backend : SearchRequest → Option SearchResult) (w : Schedule answer s)
    (h : Progress answer s s) : Follows answer (start backend s).session (start w.backend s) :=
  ⟨Alike.refl s, h, w.agrees⟩

theorem Schedule.follows_finish (backend : SearchRequest → Option SearchResult) {l : Location}
    (w : Schedule answer (Session.atLocation settings l)) :
    Follows answer ((start backend (Session.atLocation settings l)).steps w.navigations).session
      w.finish :=
  (follows_start backend w (progress_atLocation settings l)).steps
    (valid_start w.backend settings l) w.faithful

/-- Schedules with the same navigations end alike, however their tasks and replies come between
them, once nothing is left to wait for: with the same history, the same snapshot and as many
requests and sample searches. -/
theorem finish_eq_of_navigations_eq (answer : SearchRequest → SearchResult)
    (settings : SessionSettings) (l : Location)
    (v w : Schedule answer (Session.atLocation settings l))
    (hnavigations : v.navigations = w.navigations) (hv : Quiescent v.finish)
    (hw : Quiescent w.finish) :
    v.finish.session.history = w.finish.session.history ∧
    v.finish.session.snapshot = w.finish.session.snapshot ∧
    v.finish.session.metrics.searchRequests = w.finish.session.metrics.searchRequests ∧
    v.finish.session.metrics.sampleHits = w.finish.session.metrics.sampleHits := by
  obtain ⟨halike, hprogress, -⟩ := v.follows_finish v.backend
  obtain ⟨halike', hprogress', -⟩ := w.follows_finish v.backend
  rw [← hnavigations] at halike' hprogress'
  have hidle := ((valid_start v.backend settings l).steps v.events).idle_of_quiescent hv
  have hidle' := ((valid_start w.backend settings l).steps w.events).idle_of_quiescent hw
  refine ⟨halike.history_eq.trans halike'.history_eq.symm, ?_,
    halike.searchRequests_eq.trans halike'.searchRequests_eq.symm,
    halike.sampleHits_eq.trans halike'.sampleHits_eq.symm⟩
  exact Snapshot.ext (halike.revision_eq.trans halike'.revision_eq.symm)
    (halike.state_eq.trans halike'.state_eq.symm)
    ((hprogress.outcome_of_idle hidle).trans (hprogress'.outcome_of_idle hidle').symm)

/-- The request for category A is answered only when the one for category B has taken its place, or
it is never made. -/
theorem finish_eq_of_navigations_eq_late_reply :
    let answer : SearchRequest → SearchResult := fun request =>
      .ok (if request.classes = ["B"] then Product.samples else [])
    let s := Session.atLocation {} ⟨"/search", [("q", "lamp"), ("cat", "A")]⟩
    ∃ v w : Schedule answer s,
      v.events = [.advance 0, .setCategories ⟨["B"]⟩, .advance 0, .resolve 0 (.ok []),
        .resolve 1 (.ok Product.samples), .advance 0] ∧
      w.events = [.setCategories ⟨["B"]⟩, .advance 0] ∧
      v.navigations = w.navigations ∧ Quiescent v.finish ∧ Quiescent w.finish ∧
      v.finish.session.snapshot = w.finish.session.snapshot := by
  intro answer s
  let v : Schedule answer s :=
    { backend := fun _ => none
      events := [.advance 0, .setCategories ⟨["B"]⟩, .advance 0, .resolve 0 (.ok []),
        .resolve 1 (.ok Product.samples), .advance 0]
      agrees := fun _ _ h => nomatch h
      faithful := by
        refine ⟨trivial, trivial, trivial, ?_, ?_, trivial, trivial⟩
        · exact repliesAs_resolve ⟨"lamp", ["A"]⟩ (by decide +kernel)
        · exact repliesAs_resolve ⟨"lamp", ["B"]⟩ (by decide +kernel) }
  let w : Schedule answer s :=
    { backend := fun request => some (answer request)
      events := [.setCategories ⟨["B"]⟩, .advance 0]
      agrees := fun _ _ h => (Option.some.inj h).symm
      faithful := ⟨trivial, trivial, trivial⟩ }
  have hv : Quiescent v.finish :=
    quiescent_of_idle (Option.isNone_iff_eq_none.mp (by decide +kernel))
  have hw : Quiescent w.finish :=
    quiescent_of_idle (Option.isNone_iff_eq_none.mp (by decide +kernel))
  exact ⟨v, w, rfl, rfl, rfl, hv, hw, (finish_eq_of_navigations_eq answer {} _ v w rfl hv hw).2.1⟩

end SessionRun

end Storefront
