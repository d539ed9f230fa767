import Storefront.Proofs.Session.Follow
import Storefront.Session.Run

/-! # What holds throughout a session

The invariant ties four things together: the snapshot that is shown, the number of the last
revision, the request in flight and the calls that reached the backend. It is kept by following the
history, by a task and by a reply. -/

namespace Storefront

/-- Whether a request is one for a search, with the labels in whatever order. -/
structure SearchRequest.Seeks (request : SearchRequest) (state : SearchState) : Prop where
  query_eq : request.query = state.query
  classes_perm : request.classes.Perm state.categories.labels

theorem SearchRequest.seeks_ofState (state : SearchState) : (ofState state).Seeks state :=
  ⟨rfl, List.Perm.refl _⟩

namespace SessionRun

/-- How far the revision that is shown has come. Where nothing is known of its search beforehand, it
has made one request, whose call bears the ticket of the revision. -/
inductive Phase (settings : SessionSettings) (shown : Snapshot) (inFlight : Option InFlight)
    (calls : List SearchCall) : Prop where
  | empty (query_eq : shown.state.query = "") (outcome_eq : shown.outcome = .success [])
      (idle : inFlight = none)
  | sample (query_eq : shown.state.query ≠ "" ∧ settings.sampleQuery = some shown.state.query)
      (outcome_eq : shown.outcome = .success Product.samples) (idle : inFlight = none)
  | queued {request : SearchRequest} (asks : settings.Asks shown.state)
      (seeks : request.Seeks shown.state) (outcome_eq : shown.outcome = .loading)
      (inFlight_eq : inFlight = some ⟨⟨shown.revision⟩, request, .queued⟩)
      (fresh : ∀ c ∈ calls, c.ticket.number < shown.revision)
  | waiting {request : SearchRequest} {call : Nat} (asks : settings.Asks shown.state)
      (seeks : request.Seeks shown.state) (outcome_eq : shown.outcome = .loading)
      (inFlight_eq : inFlight = some ⟨⟨shown.revision⟩, request, .waiting call⟩)
      (called : calls[call]? = some ⟨⟨shown.revision⟩, request, none⟩)
  | answered {request : SearchRequest} {call : Nat} {result : SearchResult}
      (asks : settings.Asks shown.state)
      (seeks : request.Seeks shown.state) (outcome_eq : shown.outcome = .loading)
      (inFlight_eq : inFlight = some ⟨⟨shown.revision⟩, request, .answered result⟩)
      (called : calls[call]? = some ⟨⟨shown.revision⟩, request, some result⟩)
  | settled {request : SearchRequest} {call : Nat} {result : SearchResult}
      (asks : settings.Asks shown.state)
      (seeks : request.Seeks shown.state) (outcome_eq : shown.outcome = .ofResult result)
      (idle : inFlight = none)
      (called : calls[call]? = some ⟨⟨shown.revision⟩, request, some result⟩)

/-- The numbers of the revisions whose requests reached the backend. -/
def called (calls : List SearchCall) : List Nat :=
  calls.map fun c => c.ticket.number

structure Valid (settings : SessionSettings) (r : SessionRun) : Prop where
  settings_eq : r.session.settings = settings
  state_eq : r.session.snapshot.state = r.session.located
  revision_eq : r.session.snapshot.revision = r.session.revisions.latest
  called_lt : (called r.calls).Pairwise (· < ·)
  called_le : ∀ n ∈ called r.calls, n ≤ r.session.snapshot.revision
  phase : Phase settings r.session.snapshot r.session.inFlight r.calls

variable {settings : SessionSettings} {r : SessionRun}

/-! ## The request in flight -/

theorem Valid.ticket_eq (h : Valid settings r) {f : InFlight} (hf : r.session.inFlight = some f) :
    f.ticket = ⟨r.session.snapshot.revision⟩ := by
  cases h.phase with
  | empty query_eq outcome_eq idle => cases hf.symm.trans idle
  | sample query_eq outcome_eq idle => cases hf.symm.trans idle
  | settled asks seeks outcome_eq idle called => cases hf.symm.trans idle
  | queued asks seeks outcome_eq inFlight_eq fresh =>
      obtain rfl := Option.some.inj (hf.symm.trans inFlight_eq)
      rfl
  | waiting asks seeks outcome_eq inFlight_eq called =>
      obtain rfl := Option.some.inj (hf.symm.trans inFlight_eq)
      rfl
  | answered asks seeks outcome_eq inFlight_eq called =>
      obtain rfl := Option.some.inj (hf.symm.trans inFlight_eq)
      rfl

/-- A request waits for a call of its own, which has no reply yet. -/
theorem Valid.called_of_waiting (h : Valid settings r) {ticket : Ticket} {request : SearchRequest}
    {call : Nat} (hf : r.session.inFlight = some ⟨ticket, request, .waiting call⟩) :
    r.calls[call]? = some ⟨ticket, request, none⟩ := by
  cases h.phase with
  | empty query_eq outcome_eq idle => cases hf.symm.trans idle
  | sample query_eq outcome_eq idle => cases hf.symm.trans idle
  | settled asks seeks outcome_eq idle called => cases hf.symm.trans idle
  | queued asks seeks outcome_eq inFlight_eq fresh => cases hf.symm.trans inFlight_eq
  | answered asks seeks outcome_eq inFlight_eq called => cases hf.symm.trans inFlight_eq
  | waiting asks seeks outcome_eq inFlight_eq called =>
      cases hf.symm.trans inFlight_eq
      exact called

/-! ## Following the history -/

theorem Phase.reorder {shown : Snapshot} {inFlight : Option InFlight}
    {calls : List SearchCall} (h : Phase settings shown inFlight calls) {state : SearchState}
    (hquery : shown.state.query = state.query)
    (hperm : shown.state.categories.labels.Perm state.categories.labels) :
    Phase settings { shown with state } inFlight calls := by
  have hasks : settings.Asks shown.state → settings.Asks state := by
    simp only [SessionSettings.Asks, hquery, imp_self]
  have hseeks : ∀ request : SearchRequest, request.Seeks shown.state → request.Seeks state :=
    fun _ hs => ⟨hs.query_eq.trans hquery, hs.classes_perm.trans hperm⟩
  cases h with
  | empty query_eq outcome_eq idle => exact .empty (hquery ▸ query_eq) outcome_eq idle
  | sample query_eq outcome_eq idle => exact .sample (hquery ▸ query_eq) outcome_eq idle
  | queued asks seeks outcome_eq inFlight_eq fresh =>
      exact .queued (hasks asks) (hseeks _ seeks) outcome_eq inFlight_eq fresh
  | waiting asks seeks outcome_eq inFlight_eq called =>
      exact .waiting (hasks asks) (hseeks _ seeks) outcome_eq inFlight_eq called
  | answered asks seeks outcome_eq inFlight_eq called =>
      exact .answered (hasks asks) (hseeks _ seeks) outcome_eq inFlight_eq called
  | settled asks seeks outcome_eq idle called =>
      exact .settled (hasks asks) (hseeks _ seeks) outcome_eq idle called

/-- A revision that begins is ahead of every call there was. -/
theorem valid_beginRevision (backend : SearchRequest → Option SearchResult) (s : Session)
    (calls : List SearchCall) (now : Nat) (hlt : (called calls).Pairwise (· < ·))
    (hle : ∀ n ∈ called calls, n ≤ s.revisions.latest) :
    Valid s.settings ⟨backend, s.beginRevision s.located, calls, now⟩ := by
  have hle' : ∀ n ∈ called calls, n ≤ s.nextTicket.number :=
    fun n hn => Nat.le_succ_of_le (hle n hn)
  rcases s.settings.empty_or_sample_or_asks s.located with h | h | h
  · rw [s.beginRevision_of_empty h]
    exact ⟨rfl, rfl, rfl, hlt, hle', .empty h rfl rfl⟩
  · rw [s.beginRevision_of_sample h]
    exact ⟨rfl, rfl, rfl, hlt, hle', .sample h rfl rfl⟩
  · rw [s.beginRevision_of_asks h]
    refine ⟨rfl, rfl, rfl, hlt, hle', .queued h (SearchRequest.seeks_ofState _) rfl rfl ?_⟩
    intro c hc
    exact Nat.lt_succ_of_le (hle _ (List.mem_map_of_mem hc))

theorem Valid.visit (h : Valid settings r) (history : History) :
    Valid settings { r with session := r.session.visit history } := by
  rcases r.session.visit_cases history with ⟨hstate, heq⟩ | ⟨⟨hquery, hperm, -⟩, heq⟩ | ⟨-, heq⟩
  · rw [heq]
    exact ⟨h.settings_eq, hstate, h.revision_eq, h.called_lt, h.called_le, h.phase⟩
  · rw [heq]
    exact ⟨h.settings_eq, rfl, h.revision_eq, h.called_lt, h.called_le,
      h.phase.reorder hquery hperm⟩
  · rw [heq]
    obtain rfl := h.settings_eq
    exact valid_beginRevision r.backend { r.session with history } r.calls r.now h.called_lt
      fun n hn => h.revision_eq ▸ h.called_le n hn

/-! ## Tasks -/

theorem runTasks_of_idle (h : r.session.inFlight = none) : r.runTasks = r := by
  simp [runTasks, poll?, h]

theorem runTasks_of_waiting {ticket : Ticket} {request : SearchRequest} {call : Nat}
    (h : r.session.inFlight = some ⟨ticket, request, .waiting call⟩) : r.runTasks = r := by
  simp [runTasks, poll?, h]

theorem runTasks_of_answered {ticket : Ticket} {request : SearchRequest} {result : SearchResult}
    (h : r.session.inFlight = some ⟨ticket, request, .answered result⟩) :
    r.runTasks = { r with session := r.session.complete ticket result } := by
  simp [runTasks, poll?, h]

/-- A request that was queued reaches the backend, which answers it at once or leaves it waiting. -/
theorem runTasks_of_queued {ticket : Ticket} {request : SearchRequest}
    (h : r.session.inFlight = some ⟨ticket, request, .queued⟩) :
    r.runTasks = { r with
      calls := r.calls ++ [⟨ticket, request, r.backend request⟩]
      session := match r.backend request with
        | some result => r.session.complete ticket result
        | none =>
          { r.session with inFlight := some ⟨ticket, request, .waiting r.calls.length⟩ } } := by
  cases hbackend : r.backend request <;> simp [runTasks, poll?, h, hbackend]

theorem called_append_singleton (calls : List SearchCall) (c : SearchCall) :
    called (calls ++ [c]) = called calls ++ [c.ticket.number] := by
  simp [called]

theorem Valid.runTasks (h : Valid settings r) : Valid settings r.runTasks := by
  cases h.phase with
  | empty query_eq outcome_eq idle => rwa [runTasks_of_idle idle]
  | sample query_eq outcome_eq idle => rwa [runTasks_of_idle idle]
  | settled asks seeks outcome_eq idle called => rwa [runTasks_of_idle idle]
  | waiting asks seeks outcome_eq inFlight_eq called => rwa [runTasks_of_waiting inFlight_eq]
  | answered asks seeks outcome_eq inFlight_eq called =>
      rw [runTasks_of_answered inFlight_eq, Session.complete_of_current]
      exact ⟨h.settings_eq, h.state_eq, h.revision_eq, h.called_lt, h.called_le,
        .settled asks seeks rfl rfl called⟩
  | @queued request asks seeks outcome_eq inFlight_eq fresh =>
      have hlt : (called
          (r.calls ++ [⟨⟨r.session.snapshot.revision⟩, request, r.backend request⟩])).Pairwise
          (· < ·) := by
        rw [called_append_singleton]
        refine List.pairwise_append.mpr ⟨h.called_lt, List.pairwise_singleton _ _, ?_⟩
        intro n hn m hm
        obtain ⟨c, hc, rfl⟩ := List.mem_map.mp hn
        rw [List.mem_singleton.mp hm]
        exact fresh c hc
      have hle : ∀ n ∈ called
          (r.calls ++ [⟨⟨r.session.snapshot.revision⟩, request, r.backend request⟩]),
          n ≤ r.session.snapshot.revision := by
        rw [called_append_singleton]
        intro n hn
        rcases List.mem_append.mp hn with hn | hn
        · exact h.called_le n hn
        · exact Nat.le_of_eq (List.mem_singleton.mp hn)
      have hcalled := List.getElem?_concat_length (l := r.calls)
        (a := ⟨⟨r.session.snapshot.revision⟩, request, r.backend request⟩)
      rw [runTasks_of_queued inFlight_eq]
      cases hbackend : r.backend request with
      | some result =>
          rw [hbackend] at hlt hle hcalled
          simp only [Session.complete_of_current]
          exact ⟨h.settings_eq, h.state_eq, h.revision_eq, hlt, hle,
            .settled asks seeks rfl rfl hcalled⟩
      | none =>
          rw [hbackend] at hlt hle hcalled
          exact ⟨h.settings_eq, h.state_eq, h.revision_eq, hlt, hle,
            .waiting asks seeks outcome_eq rfl hcalled⟩

/-! ## Replies -/

theorem resolve_of_getElem?_eq_none {call : Nat} (result : SearchResult)
    (h : r.calls[call]? = none) : r.resolve call result = r := by
  simp [resolve, h]

theorem resolve_of_answered {call : Nat} {c : SearchCall} (result : SearchResult)
    (h : r.calls[call]? = some c) (hc : c.reply ≠ none) : r.resolve call result = r := by
  have hanswered : c.answered = true := Option.isSome_iff_ne_none.mpr hc
  simp [resolve, h, hanswered]

/-- A reply is noticed if the request in flight waits for it. -/
theorem resolve_of_waiting {call : Nat} {c : SearchCall} {ticket : Ticket}
    {request : SearchRequest} (result : SearchResult) (h : r.calls[call]? = some c)
    (hc : c.reply = none) (hwaiting : r.session.inFlight = some ⟨ticket, request, .waiting call⟩) :
    r.resolve call result = { r with
      calls := r.calls.set call { c with reply := some result }
      session := { r.session with inFlight := some ⟨ticket, request, .answered result⟩ } } := by
  simp [resolve, h, SearchCall.answered, hc, hwaiting]

/-- A reply that nothing in flight waits for is not. -/
theorem resolve_of_not_waiting {call : Nat} {c : SearchCall} (result : SearchResult)
    (h : r.calls[call]? = some c) (hc : c.reply = none)
    (hnot : ∀ ticket request, r.session.inFlight ≠ some ⟨ticket, request, .waiting call⟩) :
    r.resolve call result =
      { r with calls := r.calls.set call { c with reply := some result } } := by
  simp only [resolve, h, SearchCall.answered, hc, Option.isSome_none, Bool.false_eq_true, if_false]
  split
  · rename_i ticket request waited heq
    have hne : waited ≠ call := fun hw => hnot ticket request (hw ▸ heq)
    rw [if_neg hne]
  · rfl

/-- A reply changes nothing, or is noticed, or is kept with its call only. -/
theorem resolve_cases (r : SessionRun) (call : Nat) (result : SearchResult) :
    r.resolve call result = r ∨ ∃ c, r.calls[call]? = some c ∧ c.reply = none ∧
      ((∃ ticket request, r.session.inFlight = some ⟨ticket, request, .waiting call⟩ ∧
        r.resolve call result = { r with
          calls := r.calls.set call { c with reply := some result }
          session := { r.session with
            inFlight := some ⟨ticket, request, .answered result⟩ } }) ∨
      r.resolve call result =
        { r with calls := r.calls.set call { c with reply := some result } }) := by
  cases hget : r.calls[call]? with
  | none => exact .inl (resolve_of_getElem?_eq_none result hget)
  | some c =>
      by_cases hc : c.reply = none
      · refine .inr ⟨c, rfl, hc, ?_⟩
        by_cases hwaiting : ∃ ticket request,
            r.session.inFlight = some ⟨ticket, request, .waiting call⟩
        · obtain ⟨ticket, request, hwaiting⟩ := hwaiting
          exact .inl ⟨ticket, request, hwaiting, resolve_of_waiting result hget hc hwaiting⟩
        · exact .inr (resolve_of_not_waiting result hget hc fun t q heq => hwaiting ⟨t, q, heq⟩)
      · exact .inl (resolve_of_answered result hget hc)

/-- A reply shows in nothing that is read off a call apart from it. -/
theorem map_set_reply {β : Type} (f : SearchCall → β) {calls : List SearchCall} {call : Nat}
    {c : SearchCall} (h : calls[call]? = some c) (reply : Option SearchResult)
    (hf : f { c with reply } = f c) :
    (calls.set call { c with reply }).map f = calls.map f := by
  obtain ⟨hlt, rfl⟩ := List.getElem?_eq_some_iff.mp h
  have hlt' : call < (calls.map f).length := by simpa using hlt
  have hself : (calls.map f).set call (calls.map f)[call] = calls.map f :=
    List.set_getElem_self hlt'
  rw [List.map_set, hf]
  simpa only [List.getElem_map] using hself

theorem called_set {calls : List SearchCall} {call : Nat} {c : SearchCall}
    (h : calls[call]? = some c) (reply : Option SearchResult) :
    called (calls.set call { c with reply }) = called calls :=
  map_set_reply (fun c => c.ticket.number) h reply rfl

/-- A reply to one call leaves a call that is answered, or another one, as it was. -/
theorem getElem?_set_of_ne {calls : List SearchCall} {call other : Nat} {c d e : SearchCall}
    (h : calls[call]? = some c) (hd : calls[other]? = some d) (hne : c ≠ d) :
    (calls.set call e)[other]? = some d := by
  have hidx : call ≠ other := by
    rintro rfl
    exact hne (Option.some.inj (h.symm.trans hd))
  rw [List.getElem?_set_ne hidx, hd]

/-- A reply that nothing waits for leaves the phase to the calls. -/
theorem Valid.resolve_of_phase (h : Valid settings r) {call : Nat} {c : SearchCall}
    {result : SearchResult} (hget : r.calls[call]? = some c) (hc : c.reply = none)
    (hnot : ∀ ticket request, r.session.inFlight ≠ some ⟨ticket, request, .waiting call⟩)
    (hphase : Phase settings r.session.snapshot r.session.inFlight
      (r.calls.set call { c with reply := some result })) :
    Valid settings (r.resolve call result) := by
  rw [resolve_of_not_waiting result hget hc hnot]
  exact ⟨h.settings_eq, h.state_eq, h.revision_eq, called_set hget (some result) ▸ h.called_lt,
    called_set hget (some result) ▸ h.called_le, hphase⟩

theorem Valid.resolve_unanswered (h : Valid settings r) {call : Nat} {c : SearchCall}
    (hget : r.calls[call]? = some c) (hc : c.reply = none) (result : SearchResult) :
    Valid settings (r.resolve call result) := by
  have hkept : ∀ {other : Nat} {d : SearchCall}, r.calls[other]? = some d → d.reply ≠ none →
      (r.calls.set call { c with reply := some result })[other]? = some d :=
    fun hd hreply => getElem?_set_of_ne hget hd fun heq => hreply (heq ▸ hc)
  cases h.phase with
  | empty query_eq outcome_eq idle =>
      exact h.resolve_of_phase hget hc (by simp [idle]) (.empty query_eq outcome_eq idle)
  | sample query_eq outcome_eq idle =>
      exact h.resolve_of_phase hget hc (by simp [idle]) (.sample query_eq outcome_eq idle)
  | queued asks seeks outcome_eq inFlight_eq fresh =>
      refine h.resolve_of_phase hget hc (by simp [inFlight_eq])
        (.queued asks seeks outcome_eq inFlight_eq ?_)
      intro d hd
      rcases List.mem_or_eq_of_mem_set hd with hd | rfl
      · exact fresh d hd
      · exact fresh c (List.mem_of_getElem? hget)
  | @waiting request waited asks seeks outcome_eq inFlight_eq called =>
      by_cases hw : waited = call
      · subst hw
        rw [resolve_of_waiting result hget hc inFlight_eq]
        obtain rfl := Option.some.inj (hget.symm.trans called)
        have hanswered := List.getElem?_set_self
          (a := ⟨⟨r.session.snapshot.revision⟩, request, some result⟩)
          (List.getElem?_eq_some_iff.mp hget).1
        exact ⟨h.settings_eq, h.state_eq, h.revision_eq, called_set hget (some result) ▸ h.called_lt,
          called_set hget (some result) ▸ h.called_le, .answered asks seeks outcome_eq rfl hanswered⟩
      · refine h.resolve_of_phase hget hc (by simp [inFlight_eq, hw])
          (.waiting asks seeks outcome_eq inFlight_eq ?_)
        exact (List.getElem?_set_ne (Ne.symm hw)).trans called
  | answered asks seeks outcome_eq inFlight_eq called =>
      exact h.resolve_of_phase hget hc (by simp [inFlight_eq])
        (.answered asks seeks outcome_eq inFlight_eq (hkept called (by simp)))
  | settled asks seeks outcome_eq idle called =>
      exact h.resolve_of_phase hget hc (by simp [idle])
        (.settled asks seeks outcome_eq idle (hkept called (by simp)))

theorem Valid.resolve (h : Valid settings r) (call : Nat) (result : SearchResult) :
    Valid settings (r.resolve call result) := by
  cases hget : r.calls[call]? with
  | none => rwa [resolve_of_getElem?_eq_none result hget]
  | some c =>
      by_cases hc : c.reply = none
      · exact h.resolve_unanswered hget hc result
      · rwa [resolve_of_answered result hget hc]

/-! ## Whole runs -/

/-- Whether an event leads to a location, be it the one that is current already. -/
def Navigates (r : SessionRun) : SessionStep → Prop
  | .submit text => Session.accepts text = true
  | .setCategories _ => True
  | .toggle _ => True
  | .back => r.session.history.back? ≠ none
  | .forward => r.session.history.forward? ≠ none
  | .advance _ => False
  | .resolve _ _ => False

theorem step_of_navigates {op : SessionStep} (h : r.Navigates op) :
    ∃ history, r.step op = { r with session := r.session.visit history } := by
  cases op with
  | submit text =>
      have haccepts : Session.accepts text = true := h
      exact ⟨_, by simp only [step, Session.submit, haccepts, if_true]; rfl⟩
  | setCategories categories => exact ⟨_, rfl⟩
  | toggle label => exact ⟨_, rfl⟩
  | back =>
      obtain ⟨history, hback⟩ := Option.ne_none_iff_exists'.mp h
      exact ⟨history, by simp [step, Session.back, hback, Session.visit]⟩
  | forward =>
      obtain ⟨history, hforward⟩ := Option.ne_none_iff_exists'.mp h
      exact ⟨history, by simp [step, Session.forward, hforward, Session.visit]⟩
  | advance delay => exact h.elim
  | resolve call result => exact h.elim

/-- An event leads to a location, does nothing, runs the task or brings a reply. -/
theorem step_cases (r : SessionRun) (op : SessionStep) :
    r.Navigates op ∨ r.step op = r ∨ (∃ delay, op = .advance delay) ∨
      ∃ call result, op = .resolve call result := by
  cases op with
  | submit text =>
      by_cases haccepts : Session.accepts text = true
      · exact .inl haccepts
      · exact .inr (.inl (by simp [step, Session.submit, haccepts]))
  | setCategories categories => exact .inl trivial
  | toggle label => exact .inl trivial
  | back =>
      by_cases hback : r.session.history.back? = none
      · exact .inr (.inl (by simp [step, Session.back, hback]))
      · exact .inl hback
  | forward =>
      by_cases hforward : r.session.history.forward? = none
      · exact .inr (.inl (by simp [step, Session.forward, hforward]))
      · exact .inl hforward
  | advance delay => exact .inr (.inr (.inl ⟨delay, rfl⟩))
  | resolve call result => exact .inr (.inr (.inr ⟨call, result, rfl⟩))

theorem Valid.step (h : Valid settings r) (op : SessionStep) : Valid settings (r.step op) := by
  rcases r.step_cases op with hnav | hsame | ⟨delay, rfl⟩ | ⟨call, result, rfl⟩
  · obtain ⟨history, heq⟩ := step_of_navigates hnav
    rw [heq]
    exact h.visit history
  · rwa [hsame]
  · have htasks := h.runTasks
    exact ⟨htasks.settings_eq, htasks.state_eq, htasks.revision_eq, htasks.called_lt,
      htasks.called_le, htasks.phase⟩
  · exact h.resolve call result

theorem Valid.steps (h : Valid settings r) (ops : List SessionStep) :
    Valid settings (r.steps ops) := by
  induction ops generalizing r with
  | nil => exact h
  | cons op ops ih => exact ih (h.step op)

theorem valid_start (backend : SearchRequest → Option SearchResult) (settings : SessionSettings)
    (l : Location) :
    Valid settings (start backend (Session.atLocation settings l)) := by
  rw [Session.atLocation_eq]
  exact valid_beginRevision backend (Session.unbegun settings l) [] 0 List.Pairwise.nil
    (fun _ hn => absurd hn List.not_mem_nil)

end SessionRun

end Storefront
