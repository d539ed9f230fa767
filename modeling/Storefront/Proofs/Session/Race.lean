import Mathlib.Data.List.Perm.Basic
import Storefront.Proofs.Session.Follow

/-! # Requests that are not given up in time

A request may run on after its revision has been superseded, and be answered at any time after. The
comparison of revisions alone keeps such an answer from being shown, in whatever order answers and
revisions come. -/

namespace Storefront

/-- An answer that came to a request, and how many revisions had begun by then. -/
structure Completion where
  ticket : Ticket
  result : SearchResult
  begun : Nat

namespace Completion

/-- Another revision had begun since that of the request. -/
def late (c : Completion) : Bool :=
  decide (c.ticket.number < c.begun)

/-- The answer was an error that came in time. -/
def failed (c : Completion) : Bool :=
  !c.late && match c.result with
    | .ok _ => false
    | .error _ => true

end Completion

/-- A session whose requests run until they are answered, how many revisions have begun, and the
answers so far. -/
structure Race where
  session : Session
  running : List InFlight
  begun : Nat
  completions : List Completion

/-- A revision begins, or one of the requests that run is answered. -/
inductive RaceStep where
  | begin (state : SearchState)
  | finish (place : Nat) (result : SearchResult)

namespace Race

/-- The request of a revision joins those that run already, none of which ends. -/
def begin (r : Race) (state : SearchState) : Race :=
  let session := r.session.beginRevision state
  { r with session, running := r.running ++ session.inFlight.toList, begun := r.begun + 1 }

/-- A request that is answered leaves the slot only if it is the one in there. -/
def finish (r : Race) (place : Nat) (result : SearchResult) : Race :=
  match r.running[place]? with
  | none => r
  | some f =>
    { r with
      session := { r.session.complete f.ticket result with
        inFlight := r.session.inFlight.filter fun g => g.ticket != f.ticket }
      running := r.running.eraseIdx place
      completions := r.completions ++ [⟨f.ticket, result, r.begun⟩] }

def step (r : Race) : RaceStep → Race
  | .begin state => r.begin state
  | .finish place result => r.finish place result

def steps (r : Race) (es : List RaceStep) : Race :=
  es.foldl step r

/-- No revision has begun. -/
def unbegun (settings : SessionSettings) (l : Location) : Race :=
  { session := Session.unbegun settings l, running := [], begun := 0, completions := [] }

/-- The first revision is that of the location. -/
def start (settings : SessionSettings) (l : Location) : Race :=
  (unbegun settings l).begin (Session.unbegun settings l).located

@[simp] theorem session_begin (r : Race) (state : SearchState) :
    (r.begin state).session = r.session.beginRevision state :=
  rfl

theorem session_start (settings : SessionSettings) (l : Location) :
    (start settings l).session = Session.atLocation settings l := by
  rw [start, session_begin, Session.atLocation_eq, unbegun]

variable {r : Race} {settings : SessionSettings} {place : Nat} {f : InFlight}

/-! ## Tickets -/

/-- The revisions that have made a request, answered or not. -/
def tickets (r : Race) : List Nat :=
  r.running.map (fun f => f.ticket.number) ++ r.completions.map fun c => c.ticket.number

theorem mem_tickets_of_running (h : f ∈ r.running) : f.ticket.number ∈ r.tickets :=
  List.mem_append_left _ (List.mem_map_of_mem h)

/-- A revision for which the backend is asked brings one request, any other brings none. -/
theorem tickets_begin_perm (r : Race) (state : SearchState) :
    (r.begin state).tickets.Perm
      (if r.session.settings.Asks state then (r.session.revisions.latest + 1) :: r.tickets
        else r.tickets) := by
  simp only [tickets, begin, (r.session.begins_beginRevision state).inFlight_eq]
  by_cases hasks : r.session.settings.Asks state
  · rw [if_pos hasks, if_pos hasks, List.map_append, List.append_assoc]
    exact List.perm_middle
  · rw [if_neg hasks, if_neg hasks, Option.toList_none, List.append_nil]

/-- An answer ends one request and starts none. -/
theorem tickets_finish_perm (h : r.running[place]? = some f) (result : SearchResult) :
    (r.finish place result).tickets.Perm r.tickets := by
  obtain ⟨hlt, rfl⟩ := List.getElem?_eq_some_iff.mp h
  have hrunning := (List.getElem_cons_eraseIdx_perm hlt).map fun f => f.ticket.number
  simp only [tickets, finish, h, List.map_append, List.map_cons, List.map_nil, ← List.append_assoc]
  exact (List.perm_append_singleton _ _).trans (hrunning.append_right _)

/-! ## The revision that is shown -/

/-- How far the revision that is shown has come: nothing is asked for it, its request runs, or it
shows the answer to its request. -/
inductive Shown (settings : SessionSettings) (r : Race) : Prop where
  | known (unasked : ¬ settings.Asks r.session.snapshot.state)
      (outcome_eq : r.session.snapshot.outcome = settings.opening r.session.snapshot.state)
      (silent : ∀ n ∈ r.tickets, n < r.begun)
  | loading {f : InFlight} (asks : settings.Asks r.session.snapshot.state)
      (outcome_eq : r.session.snapshot.outcome = .loading)
      (runs : f ∈ r.running) (own : f.ticket.number = r.begun)
  | answered {c : Completion} (asks : settings.Asks r.session.snapshot.state)
      (outcome_eq : r.session.snapshot.outcome = .ofResult c.result)
      (came : c ∈ r.completions) (own : c.ticket.number = r.begun)

structure Valid (settings : SessionSettings) (r : Race) : Prop where
  settings_eq : r.session.settings = settings
  revision_eq : r.session.snapshot.revision = r.begun
  latest_eq : r.session.revisions.latest = r.begun
  tickets_nodup : r.tickets.Nodup
  tickets_le : ∀ n ∈ r.tickets, n ≤ r.begun
  requests_eq : r.session.metrics.searchRequests = r.tickets.length
  shown : Shown settings r
  stale_eq : r.session.metrics.staleResults = (r.completions.filter Completion.late).length
  failures_eq :
    r.session.metrics.searchFailures = (r.completions.filter Completion.failed).length

theorem ofResult_ne_loading (result : SearchResult) : Outcome.ofResult result ≠ .loading := by
  cases result <;> simp [Outcome.ofResult]

/-- While the request of the revision that is shown runs, its answer is awaited. -/
theorem Valid.awaited_of_running (h : Valid settings r) (hget : r.running[place]? = some f)
    (hown : f.ticket.number = r.begun) :
    settings.Asks r.session.snapshot.state ∧ r.session.snapshot.outcome = .loading := by
  have hmem : f ∈ r.running := List.mem_of_getElem? hget
  cases h.shown with
  | known unasked outcome_eq silent =>
      exact absurd hown (Nat.ne_of_lt (silent _ (mem_tickets_of_running hmem)))
  | loading asks outcome_eq runs own => exact ⟨asks, outcome_eq⟩
  | @answered c asks outcome_eq came own =>
      have hdisjoint := (List.nodup_append.mp h.tickets_nodup).2.2
      exact absurd (hown.trans own.symm)
        (hdisjoint _ (List.mem_map_of_mem hmem) _ (List.mem_map_of_mem came))

/-! ## Steps -/

theorem valid_begin (hsettings : r.session.settings = settings)
    (hlatest : r.session.revisions.latest = r.begun) (hnodup : r.tickets.Nodup)
    (hle : ∀ n ∈ r.tickets, n ≤ r.begun)
    (hrequests : r.session.metrics.searchRequests = r.tickets.length)
    (hstale : r.session.metrics.staleResults = (r.completions.filter Completion.late).length)
    (hfailures :
      r.session.metrics.searchFailures = (r.completions.filter Completion.failed).length)
    (state : SearchState) : Valid settings (r.begin state) := by
  subst hsettings
  have hbegins := r.session.begins_beginRevision state
  have hperm := r.tickets_begin_perm state
  rw [hlatest] at hperm
  have hlt : ∀ n ∈ r.tickets, n < r.begun + 1 := fun n hn => Nat.lt_succ_of_le (hle n hn)
  have hnew : r.begun + 1 ∉ r.tickets := fun hmem => Nat.lt_irrefl _ (hlt _ hmem)
  refine ⟨hbegins.settings_eq, hbegins.revision_eq.trans (congrArg (· + 1) hlatest),
    hbegins.latest_eq.trans (congrArg (· + 1) hlatest), hperm.nodup_iff.mpr ?_, ?_, ?_, ?_,
    (r.session.answers_beginRevision state).1.trans hstale,
    (r.session.answers_beginRevision state).2.trans hfailures⟩
  · split
    · exact List.nodup_cons.mpr ⟨hnew, hnodup⟩
    · exact hnodup
  · intro n hn
    have hmem := hperm.mem_iff.mp hn
    split at hmem
    · rcases List.mem_cons.mp hmem with rfl | hmem
      · exact Nat.le_refl _
      · exact Nat.le_of_lt (hlt n hmem)
    · exact Nat.le_of_lt (hlt n hmem)
  · rw [hperm.length_eq, session_begin, hbegins.searchRequests_eq, hrequests]
    split <;> rfl
  · have hstate : (r.begin state).session.snapshot.state = state := hbegins.state_eq
    have houtcome := r.session.outcome_beginRevision state
    by_cases hasks : r.session.settings.Asks state
    · refine .loading (f := ⟨r.session.nextTicket, SearchRequest.ofState state, .queued⟩)
        (hstate.symm ▸ hasks) ?_ ?_ ?_
      · exact houtcome.trans (SessionSettings.opening_of_asks hasks)
      · simp [begin, hbegins.inFlight_eq, hasks]
      · exact congrArg (· + 1) hlatest
    · refine .known (hstate.symm ▸ hasks) (hstate.symm ▸ houtcome) ?_
      rw [if_neg hasks] at hperm
      exact fun n hn => hlt n (hperm.mem_iff.mp hn)

theorem Valid.begin (h : Valid settings r) (state : SearchState) : Valid settings (r.begin state) :=
  valid_begin h.settings_eq h.latest_eq h.tickets_nodup h.tickets_le h.requests_eq
    h.stale_eq h.failures_eq state

theorem valid_start (settings : SessionSettings) (l : Location) :
    Valid settings (start settings l) :=
  valid_begin (r := unbegun settings l) rfl rfl List.nodup_nil
    (fun _ hn => absurd hn List.not_mem_nil) rfl rfl rfl _

/-- A request of the revision that is shown is answered: the answer is shown. -/
theorem finish_of_current (h : r.running[place]? = some f)
    (hcurrent : f.ticket.number = r.session.snapshot.revision) (result : SearchResult) :
    r.finish place result =
      { r with
        session := { r.session with
          inFlight := r.session.inFlight.filter fun g => g.ticket != f.ticket
          published := r.session.published + 1
          metrics := match result with
            | .ok _ => r.session.metrics
            | .error _ => r.session.metrics.record .searchFailure
          snapshot := { r.session.snapshot with outcome := .ofResult result } }
        running := r.running.eraseIdx place
        completions := r.completions ++ [⟨f.ticket, result, r.begun⟩] } := by
  obtain ⟨⟨number⟩, request, stage⟩ := f
  obtain rfl : number = r.session.snapshot.revision := hcurrent
  cases result <;> simp only [finish, h, Session.complete_of_current]

/-- A request of another revision is answered: the answer is counted. -/
theorem finish_of_stale (h : r.running[place]? = some f)
    (hstale : f.ticket.number ≠ r.session.snapshot.revision) (result : SearchResult) :
    r.finish place result =
      { r with
        session := { r.session with
          inFlight := r.session.inFlight.filter fun g => g.ticket != f.ticket
          metrics := r.session.metrics.record .staleResults }
        running := r.running.eraseIdx place
        completions := r.completions ++ [⟨f.ticket, result, r.begun⟩] } := by
  simp only [finish, h, Session.complete_of_stale r.session result hstale.symm]

/-- An answer leaves the tickets in order, whichever revision it is for. -/
theorem Valid.tickets_finish (h : Valid settings r) (hget : r.running[place]? = some f)
    (result : SearchResult) :
    (r.finish place result).tickets.Nodup ∧
      (∀ n ∈ (r.finish place result).tickets, n ≤ r.begun) ∧
      r.session.metrics.searchRequests = (r.finish place result).tickets.length := by
  have hperm := tickets_finish_perm hget result
  exact ⟨hperm.nodup_iff.mpr h.tickets_nodup, fun n hn => h.tickets_le n (hperm.mem_iff.mp hn),
    h.requests_eq.trans hperm.length_eq.symm⟩

theorem Valid.finish_of_current (h : Valid settings r) (hget : r.running[place]? = some f)
    (hown : f.ticket.number = r.begun) (result : SearchResult) :
    Valid settings (r.finish place result) := by
  obtain ⟨hnodup, hle, hrequests⟩ := h.tickets_finish hget result
  obtain ⟨hasks, -⟩ := h.awaited_of_running hget hown
  have hlate : (Completion.mk f.ticket result r.begun).late = false := by
    simp [Completion.late, hown]
  rw [Race.finish_of_current hget (hown.trans h.revision_eq.symm)] at hnodup hle hrequests ⊢
  refine ⟨h.settings_eq, h.revision_eq, h.latest_eq, hnodup, hle, ?_,
    .answered (c := ⟨f.ticket, result, r.begun⟩) hasks rfl (by simp) hown, ?_, ?_⟩
  · cases result <;> exact hrequests
  · cases result <;> simpa [hlate, Metrics.record] using h.stale_eq
  · cases result <;> simpa [hlate, Metrics.record, Completion.failed] using h.failures_eq

theorem Valid.finish_of_stale (h : Valid settings r) (hget : r.running[place]? = some f)
    (hother : f.ticket.number ≠ r.begun) (result : SearchResult) :
    Valid settings (r.finish place result) := by
  obtain ⟨hnodup, hle, hrequests⟩ := h.tickets_finish hget result
  have hperm := tickets_finish_perm hget result
  have hlt : f.ticket.number < r.begun :=
    Nat.lt_of_le_of_ne (h.tickets_le _ (mem_tickets_of_running (List.mem_of_getElem? hget))) hother
  have hlate : (Completion.mk f.ticket result r.begun).late = true := by
    simpa [Completion.late] using hlt
  rw [Race.finish_of_stale hget fun heq => hother (heq.trans h.revision_eq)]
    at hnodup hle hrequests hperm ⊢
  refine ⟨h.settings_eq, h.revision_eq, h.latest_eq, hnodup, hle, hrequests, ?_, ?_, ?_⟩
  · cases h.shown with
    | known unasked outcome_eq silent =>
        exact .known unasked outcome_eq fun n hn => silent n (hperm.mem_iff.mp hn)
    | @loading g asks outcome_eq runs own =>
        obtain ⟨hplace, rfl⟩ := List.getElem?_eq_some_iff.mp hget
        have hg := (List.getElem_cons_eraseIdx_perm hplace).mem_iff.mpr runs
        rcases List.mem_cons.mp hg with rfl | hg
        · exact absurd own hother
        · exact .loading asks outcome_eq hg own
    | answered asks outcome_eq came own =>
        exact .answered asks outcome_eq (List.mem_append_left _ came) own
  · simpa [hlate, Metrics.record] using h.stale_eq
  · simpa [hlate, Metrics.record, Completion.failed] using h.failures_eq

theorem Valid.finish (h : Valid settings r) (place : Nat) (result : SearchResult) :
    Valid settings (r.finish place result) := by
  cases hget : r.running[place]? with
  | none => rwa [Race.finish, hget]
  | some f =>
      by_cases hown : f.ticket.number = r.begun
      · exact h.finish_of_current hget hown result
      · exact h.finish_of_stale hget hown result

theorem Valid.step (h : Valid settings r) (e : RaceStep) : Valid settings (r.step e) := by
  cases e with
  | begin state => exact h.begin state
  | finish place result => exact h.finish place result

theorem Valid.steps (h : Valid settings r) (es : List RaceStep) : Valid settings (r.steps es) := by
  induction es generalizing r with
  | nil => exact h
  | cons e es ih => exact ih (h.step e)

/-! ## What an answer does -/

/-- What the answer to a request does: it is shown exactly if the request is that of the revision
that is shown, and it touches nothing but the outcome. -/
structure Commits (r : Race) (f : InFlight) (result : SearchResult) (next : Race) : Prop where
  shown_iff : next.session.snapshot ≠ r.session.snapshot ↔
    f.ticket.number = r.session.snapshot.revision
  published_eq : next.session.published = r.session.published +
    if f.ticket.number = r.session.snapshot.revision then 1 else 0
  outcome_eq : f.ticket.number = r.session.snapshot.revision →
    next.session.snapshot.outcome = .ofResult result
  revision_eq : next.session.snapshot.revision = r.session.snapshot.revision
  state_eq : next.session.snapshot.state = r.session.snapshot.state
  completions_eq : next.completions = r.completions ++ [⟨f.ticket, result, r.begun⟩]

theorem Valid.commits_finish (h : Valid settings r) (hget : r.running[place]? = some f)
    (result : SearchResult) : Commits r f result (r.finish place result) := by
  by_cases hcurrent : f.ticket.number = r.session.snapshot.revision
  · obtain ⟨-, hloading⟩ := h.awaited_of_running hget (hcurrent.trans h.revision_eq)
    rw [Race.finish_of_current hget hcurrent]
    refine ⟨iff_of_true ?_ hcurrent, by rw [if_pos hcurrent], fun _ => rfl, rfl, rfl, rfl⟩
    intro heq
    exact ofResult_ne_loading result ((congrArg Snapshot.outcome heq).trans hloading)
  · rw [Race.finish_of_stale hget hcurrent]
    exact ⟨iff_of_false (fun hne => hne rfl) hcurrent, by rw [if_neg hcurrent]; rfl,
      fun heq => absurd heq hcurrent, rfl, rfl, rfl⟩

/-- A race starts with the session at its location. However late and in whatever order requests are
answered, an answer changes what is shown exactly if it is for the revision that is shown, whose
number is how many have begun. What is shown is known beforehand, awaited, or the answer to the
request of that revision itself; each revision makes at most one request, which is answered at most
once. The answers that came after another revision had begun are those counted as stale, and the
errors among the others are those counted as failures. -/
theorem shown_iff_current (settings : SessionSettings) (l : Location) (es : List RaceStep) :
    let r := (start settings l).steps es
    (∀ place f result, r.running[place]? = some f →
      Commits r f result (r.finish place result)) ∧
    r.session.snapshot.revision = r.begun ∧ Shown settings r ∧ r.tickets.Nodup ∧
    (∀ n ∈ r.tickets, n ≤ r.begun) ∧ r.session.metrics.searchRequests = r.tickets.length ∧
    r.session.metrics.staleResults = (r.completions.filter Completion.late).length ∧
    r.session.metrics.searchFailures = (r.completions.filter Completion.failed).length ∧
    (start settings l).session = Session.atLocation settings l := by
  intro r
  have h : Valid settings r := (valid_start settings l).steps es
  exact ⟨fun _ _ result hget => h.commits_finish hget result, h.revision_eq, h.shown,
    h.tickets_nodup, h.tickets_le, h.requests_eq, h.stale_eq, h.failures_eq,
    session_start settings l⟩

/-- The answer to the first of two searches that are awaited comes late; that to the second one is
still shown. -/
theorem shown_iff_current_lamp :
    let r := (start {} ⟨"/search", [("q", "lamp")]⟩).steps [.begin ⟨"rug", ⟨[]⟩⟩]
    let next := r.finish 0 (.ok Product.samples)
    (∃ f, r.running[0]? = some f ∧ f.ticket.number = 1) ∧ r.session.snapshot.revision = 2 ∧
      next.session.snapshot = r.session.snapshot ∧
      (∃ g, r.running[1]? = some g ∧ (r.finish 1 (.ok [])).session.snapshot.outcome = .success [])
      := by
  intro r next
  have hlaw := (shown_iff_current {} ⟨"/search", [("q", "lamp")]⟩ [.begin ⟨"rug", ⟨[]⟩⟩]).1
  have hrevision : r.session.snapshot.revision = 2 := by decide +kernel
  have hfirst : r.running[0]? = some ⟨⟨1⟩, ⟨"lamp", []⟩, .queued⟩ := by rfl
  have hsecond : r.running[1]? = some ⟨⟨2⟩, ⟨"rug", []⟩, .queued⟩ := by rfl
  refine ⟨⟨_, hfirst, rfl⟩, hrevision, ?_, _, hsecond, ?_⟩
  · have hiff := (hlaw 0 _ (.ok Product.samples) hfirst).shown_iff
    exact not_not.mp fun hne => absurd ((hiff.mp hne).trans hrevision) (by decide)
  · exact (hlaw 1 _ (.ok []) hsecond).outcome_eq hrevision.symm

end Race

end Storefront
